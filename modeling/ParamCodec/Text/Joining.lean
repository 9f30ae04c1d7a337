/-
This file says how the glyphs of a line join, which is decided from its end to its beginning.

A selector chooses the style of the code point before it. A joiner makes one picture of the emoji on
both sides of it, a tone colours the picture before it, and flag letters make flags in pairs. Some
scripts write certain letters as one glyph.
-/

import ParamCodec.Text.Columns
import ParamCodec.Text.Emoji

namespace ParamCodec.Text

/-- Letters that a letter before them can join, as one glyph of their script. -/
inductive Ligature where
  | hebrewLamed
  | bugineseYa
  /-- A vowel, a joiner and the letter ya. -/
  | bugineseVowel
  | tifinagh
  /-- The consonant joiner and a consonant. -/
  | tifinaghJoiner
  | lisuTone
  | turkicI
  | khmer
  deriving DecidableEq, Repr

/-- What stands after a place, as far as the code point at that place can join it. -/
inductive Joint where
  | loose
  | tone
  /-- One flag letter or several. -/
  | flagLetter (several : Bool)
  | emoji
  /-- A joiner and an emoji. -/
  | joiner
  /-- A keycap before a joiner and an emoji. -/
  | keycap
  /-- A flag letter before a joiner and an emoji. -/
  | joinedLetter
  /-- An even or odd number of flag letters, two at least, before a joiner and an emoji. -/
  | joinedLetters (odd : Bool)
  /-- The end of a tag with some of its letters before a joiner and an emoji. -/
  | tagLetters (count : Nat)
  /-- Digits of such a tag. -/
  | tagDigits (count : Nat)
  | arabicAlef
  /-- A letter of a script, after a joiner or not. -/
  | script (ligature : Ligature) (joined : Bool)
  deriving DecidableEq, Repr

/-- What a selector asks of the code point before it. -/
inductive Style where
  | text
  | picture
  deriving DecidableEq, Repr

/-- What stands after a place, with the style that is asked of the code point there. -/
structure Ahead where
  joint : Joint
  style : Option Style
  deriving DecidableEq, Repr

/-- Closed ranges of the code points without a column that keep Arabic letters apart. -/
def barringRanges : List (Nat × Nat) :=
  [(0x605, 0x605), (0x890, 0x891), (0x8E2, 0x8E2), (0x9BE, 0x9BE), (0x9D7, 0x9D7), (0xB3E, 0xB3E),
   (0xB57, 0xB57), (0xBBE, 0xBBE), (0xBD7, 0xBD7), (0xCC0, 0xCC0), (0xCC2, 0xCC2), (0xCC7, 0xCC8),
   (0xCCA, 0xCCB), (0xCD5, 0xCD6), (0xD3E, 0xD3E), (0xD4E, 0xD4E), (0xD57, 0xD57), (0xDCF, 0xDCF),
   (0xDDF, 0xDDF), (0x1160, 0x11FF), (0x180E, 0x180E), (0x1B35, 0x1B35), (0x1B3B, 0x1B3B),
   (0x1B3D, 0x1B3D), (0x1B43, 0x1B43), (0x200C, 0x200D), (0x2065, 0x2069), (0x302E, 0x302F),
   (0x3164, 0x3164), (0xA8FA, 0xA8FA), (0xD7B0, 0xD7C6), (0xD7CB, 0xD7FB), (0xFF9E, 0xFFA0),
   (0xFFF0, 0xFFF8), (0x111C2, 0x111C3), (0x1133E, 0x1133E), (0x11357, 0x11357), (0x114B0, 0x114B0),
   (0x114BD, 0x114BD), (0x115AF, 0x115AF), (0x11930, 0x11930), (0x1193F, 0x1193F),
   (0x11941, 0x11941), (0x11A3A, 0x11A3A), (0x11A84, 0x11A89), (0x11D46, 0x11D46),
   (0x11F02, 0x11F02), (0x1D165, 0x1D165), (0x1D16E, 0x1D172), (0xE0000, 0xE0000),
   (0xE0002, 0xE001F), (0xE0080, 0xE00FF), (0xE01F0, 0xE0FFF)]

/-- The marks that are to be ignored do not keep the letters of a script apart. -/
def isIgnorableMark (letter : Char) : Bool :=
  inRanges [(0x34F, 0x34F), (0x17B4, 0x17B5), (0x180B, 0x180D), (0x180F, 0x180F),
    (0xFE00, 0xFE0F), (0xE0100, 0xE01EF)] letter

def isArabicLam (letter : Char) : Bool :=
  inRanges [(0x644, 0x644), (0x6B5, 0x6B8), (0x76A, 0x76A), (0x8A6, 0x8A6), (0x8C7, 0x8C7)] letter

def isArabicAlef (letter : Char) : Bool :=
  inRanges [(0x622, 0x623), (0x625, 0x625), (0x627, 0x627), (0x671, 0x673), (0x675, 0x675),
    (0x773, 0x774), (0x870, 0x882)] letter

def isTifinagh (letter : Char) : Bool := inRanges [(0x2D31, 0x2D65), (0x2D6F, 0x2D6F)] letter

/-- The Khmer letters that stand below the letter before them when they are told to. -/
def isKhmerSubscript (letter : Char) : Bool :=
  inRanges [(0x1780, 0x1782), (0x1784, 0x1787), (0x1789, 0x178C), (0x178E, 0x1793),
    (0x1795, 0x1798), (0x179B, 0x179D), (0x17A0, 0x17A0), (0x17A2, 0x17A2), (0x17A7, 0x17A7),
    (0x17AB, 0x17AC), (0x17AF, 0x17AF)] letter

/-- Two tones of the Lisu script are one glyph. -/
def isLisuFirstTone (letter : Char) : Bool := inRanges [(0xA4F8, 0xA4FB)] letter

def isLisuLastTone (letter : Char) : Bool := inRanges [(0xA4FC, 0xA4FD)] letter

def isJoiner (letter : Char) : Bool := letter = '\u200d'

/-- How a letter joins a letter of its script: the columns that it adds and what it makes. -/
def Ligature.meet? (ligature : Ligature) (joined : Bool) (letter : Char) : Option (Int × Joint) :=
  if isJoiner letter then some ⟨0, .script ligature true⟩
  else if isIgnorableMark letter then some ⟨0, .script ligature joined⟩
  else
    match ligature with
    | .hebrewLamed => if joined && letter = '\u05d0' then some ⟨0, .loose⟩ else none
    | .bugineseYa =>
      if joined && letter = '\u1a17' then some ⟨0, .script .bugineseVowel true⟩ else none
    | .bugineseVowel => if letter = '\u1a15' then some ⟨0, .loose⟩ else none
    | .tifinagh =>
      if letter = '\u2d7f' then some ⟨1, .script .tifinaghJoiner true⟩
      else if joined && isTifinagh letter then some ⟨0, .loose⟩
      else none
    | .tifinaghJoiner => if isTifinagh letter then some ⟨-1, .loose⟩ else none
    | .lisuTone => if isLisuFirstTone letter then some ⟨0, .loose⟩ else none
    | .turkicI => if joined && letter.toNat = 0x10C32 then some ⟨0, .loose⟩ else none
    | .khmer => if letter = '\u17d2' then some ⟨-1, .loose⟩ else none

/-- How a code point joins what stands after it: the columns that it adds and what it makes. -/
def Joint.meet? (joint : Joint) (letter : Char) : Option (Int × Joint) :=
  match joint with
  | .loose => none
  | .tone =>
    if isTintable letter then some ⟨0, .emoji⟩
    else if isJoiner letter then some ⟨0, .joiner⟩
    else none
  | .flagLetter several =>
    if isFlagLetter letter then some ⟨1, .flagLetter true⟩
    else if several && isJoiner letter then some ⟨0, .joiner⟩
    else none
  | .emoji => if isJoiner letter then some ⟨0, .joiner⟩ else none
  | .joiner =>
    if letter = '\u20e3' then some ⟨0, .keycap⟩
    else if isFlagLetter letter then some ⟨1, .joinedLetter⟩
    else if isTone letter then some ⟨0, .tone⟩
    else if letter.toNat = 0xE007F then some ⟨0, .tagLetters 0⟩
    else if isEmoji letter then some ⟨0, .emoji⟩
    else none
  | .keycap => none
  | .joinedLetter => if isFlagLetter letter then some ⟨-1, .joinedLetters false⟩ else none
  | .joinedLetters odd =>
    if isFlagLetter letter then some ⟨if odd then -1 else 3, .joinedLetters (!odd)⟩
    else if isJoiner letter then some ⟨0, .joiner⟩
    else none
  | .tagLetters count =>
    if isTagLetter letter && count < 6 then some ⟨0, .tagLetters (count + 1)⟩
    else if isTagDigit letter && count ≤ 4 then some ⟨0, .tagDigits 1⟩
    else if letter.toNat = 0x1F3F4 && 3 ≤ count then some ⟨0, .emoji⟩
    else none
  | .tagDigits count =>
    if isTagDigit letter && count < 3 then some ⟨0, .tagDigits (count + 1)⟩
    else if letter.toNat = 0x1F3F4 && count = 3 then some ⟨0, .emoji⟩
    else none
  | .arabicAlef =>
    if isArabicLam letter then some ⟨0, .loose⟩
    else if columns letter = 0 && !inRanges barringRanges letter then some ⟨0, .arabicAlef⟩
    else none
  | .script ligature joined => ligature.meet? joined letter

/-- What a code point is for those before it. -/
def Joint.ofLetter (letter : Char) : Joint :=
  if isEmoji letter then .emoji
  else if isTone letter then .tone
  else if isFlagLetter letter then .flagLetter false
  else if isArabicAlef letter then .arabicAlef
  else if letter = '\u05dc' then .script .hebrewLamed false
  else if letter = '\u1a10' then .script .bugineseYa false
  else if isTifinagh letter then .script .tifinagh false
  else if isLisuLastTone letter then .script .lisuTone false
  else if letter.toNat = 0x10C03 then .script .turkicI false
  else if isKhmerSubscript letter then .script .khmer false
  else .loose

/-- A selector does not come between the letters of a script. -/
def Joint.outlastsSelector : Joint → Bool
  | arabicAlef => true
  | script _ _ => true
  | _ => false

/-- A picture that is asked for here is joined to an emoji. -/
def Joint.isJoined : Joint → Bool
  | joiner => true
  | keycap => true
  | _ => false

namespace Ahead

/-- Nothing stands there that could be joined. -/
def plain : Ahead := ⟨.loose, none⟩

/-- What a selector makes of what stands after it. -/
def styled (ahead : Ahead) (style : Style) : Ahead :=
  if ahead.joint.outlastsSelector || (style = .picture && ahead.joint.isJoined) then
    ⟨ahead.joint, some style⟩
  else ⟨.loose, some style⟩

/-- What is left for a code point of which the style cannot be asked. -/
def unstyled (ahead : Ahead) : Ahead :=
  if ahead.style.isNone || ahead.joint.outlastsSelector then ⟨ahead.joint, none⟩ else plain

/-- The columns that a code point above the controls adds, and what then stands ahead. -/
def meetGlyph (ahead : Ahead) (letter : Char) : Int × Ahead :=
  if letter = '\ufe0f' then ⟨0, ahead.styled .picture⟩
  else if letter = '\ufe0e' then ⟨0, ahead.styled .text⟩
  else if ahead.style = some .text && isNarrowedByTextStyle letter then ⟨1, plain⟩
  else
    match ahead.unstyled.joint.meet? letter with
    | some (width, joint) => ⟨width, joint, none⟩
    | none => ⟨columns letter, Joint.ofLetter letter, none⟩

/-- The columns that a code point adds, and what then stands ahead. -/
def meet (ahead : Ahead) (letter : Char) : Int × Ahead :=
  if ahead.style = some .picture && isStyled letter then
    ⟨if ahead.joint.isJoined then 0 else 2, .emoji, none⟩
  else if letter.toNat ≤ 0xA0 then ⟨1, plain⟩
  else if ahead.style = some .picture then ahead.unstyled.meetGlyph letter
  else ahead.meetGlyph letter

end Ahead

end ParamCodec.Text
