import MacDispatch.Text.Breadth
import MacDispatch.Text.Emoji

/-! # Columns of text

The width of a line on a terminal, in columns. Mostly it is the sum of the columns of the
characters. Some characters join with what follows: an emoji with its selector, its tone or
another emoji behind a joiner, two letters of a script that are written as one. So a line is
read from its end, and each place knows what can be joined there. -/

namespace MacDispatch.Text

/-- What stands behind a place in a line, as far as something in front can join with it. -/
inductive Joint
  /-- Nothing that joins. -/
  | plain
  | emoji
  /-- A tone of skin. -/
  | tone
  /-- The last letter of flags. -/
  | flagLetter
  /-- More letters of flags. -/
  | flagLetters
  /-- A joiner before an emoji. -/
  | joiner
  /-- A keycap mark before such a joiner. -/
  | keycap
  /-- Letters of flags before such a joiner: one, an even number, or an odd number. -/
  | joinedLetter
  | joinedEven
  | joinedOdd
  /-- The closing tag of a flag before such a joiner, with so many letters in front of it. -/
  | tagLetters (count : Nat)
  /-- The same with so many digits in front of the letters. -/
  | tagDigits (count : Nat)
  | alef
  /-- A Hebrew lamed, with or without a joiner in front of it. -/
  | lamed (joined : Bool)
  /-- A Buginese ya, with or without a joiner in front of it. -/
  | ya (joined : Bool)
  /-- The Buginese vowel sign i before a joined ya. -/
  | yaVowel
  /-- A Tifinagh consonant, with or without a joiner in front of it. -/
  | tifinagh (joined : Bool)
  /-- The Tifinagh consonant joiner before a consonant. -/
  | tifinaghJoiner
  /-- A Lisu tone letter that ends a pair. -/
  | lisuTone
  /-- An Old Turkic i, with or without a joiner in front of it. -/
  | turkicI (joined : Bool)
  /-- A Khmer letter that can stand below another. -/
  | khmer
  /-- A Kirat Rai vowel sign e, or the sign ai that two of them make. -/
  | kiratE
  | kiratAi
deriving DecidableEq, Repr

/-- A character that says how the character in front of it is drawn. -/
inductive Selector
  | picture
  /-- As a narrow sign. -/
  | sign
  /-- With the full width of an ideograph. -/
  | wide
deriving DecidableEq, Repr

namespace Selector

def ofChar? : Char → Option Selector
  | '\uFE0F' => some picture
  | '\uFE0E' => some sign
  | '\uFE01' => some wide
  | _ => none

end Selector

private def inRange (first last : Nat) (c : Char) : Bool := first ≤ c.toNat && c.toNat ≤ last

private def isFlagLetter (c : Char) : Bool := inRange 0x1f1e6 0x1f1ff c

private def isTone (c : Char) : Bool := inRange 0x1f3fb 0x1f3ff c

private def isAlef (c : Char) : Bool :=
  [0x622, 0x623, 0x625, 0x627, 0x671, 0x672, 0x673, 0x675, 0x773, 0x774].contains c.toNat
    || inRange 0x870 0x882 c

private def isLam (c : Char) : Bool :=
  [0x644, 0x76a, 0x8a6, 0x8c7].contains c.toNat || inRange 0x6b5 0x6b8 c

private def isTifinagh (c : Char) : Bool := inRange 0x2d31 0x2d65 c || c == '\u2d6f'

private def isKhmerBase (c : Char) : Bool :=
  inRange 0x1780 0x1782 c || inRange 0x1784 0x1787 c || inRange 0x1789 0x178c c
    || inRange 0x178e 0x1793 c || inRange 0x1795 0x1798 c || inRange 0x179b 0x179d c
    || [0x17a0, 0x17a2, 0x17a7, 0x17ab, 0x17ac, 0x17af].contains c.toNat

private def isTagLetter (c : Char) : Bool := inRange 0xe0061 0xe007a c

private def isTagDigit (c : Char) : Bool := inRange 0xe0030 0xe0039 c

private def zeroJoiner : Char := '\u200D'

/-- Marks without a shape, which joints other than the Arabic one pass over. -/
private def isInvisibleMark (c : Char) : Bool :=
  c == '\u034F' || inRange 0x17b4 0x17b5 c || inRange 0x180b 0x180d c || c == '\u180F'
    || inRange 0xfe00 0xfe0f c || inRange 0xe0100 0xe01ef c

/-- Characters without a column across which a lam and an alef do not join. -/
def opaqueMarks : CodeSet where
  changes := [
    0x605, 0x606, 0x890, 0x892, 0x8e2, 0x8e3, 0x9be, 0x9bf, 0x9d7, 0x9d8, 0xb3e, 0xb3f, 0xb57,
    0xb58, 0xbbe, 0xbbf, 0xbd7, 0xbd8, 0xcc0, 0xcc1, 0xcc2, 0xcc3, 0xcc7, 0xcc9, 0xcca, 0xccc,
    0xcd5, 0xcd7, 0xd3e, 0xd3f, 0xd4e, 0xd4f, 0xd57, 0xd58, 0xdcf, 0xdd0, 0xddf, 0xde0, 0x1160,
    0x1200, 0x1715, 0x1716, 0x1734, 0x1735, 0x180e, 0x180f, 0x1b35, 0x1b36, 0x1b3b, 0x1b3c, 0x1b3d,
    0x1b3e, 0x1b43, 0x1b45, 0x1baa, 0x1bab, 0x1bf2, 0x1bf4, 0x200c, 0x200e, 0x2065, 0x206a, 0x302e,
    0x3030, 0x3164, 0x3165, 0xa8fa, 0xa8fb, 0xa953, 0xa954, 0xa9c0, 0xa9c1, 0xd7b0, 0xd7c7, 0xd7cb,
    0xd7fc, 0xffa0, 0xffa1, 0xfff0, 0xfff9, 0x111c0, 0x111c1, 0x111c2, 0x111c4, 0x11235, 0x11236,
    0x1133e, 0x1133f, 0x1134d, 0x1134e, 0x11357, 0x11358, 0x113b8, 0x113b9, 0x113c2, 0x113c3,
    0x113c5, 0x113c6, 0x113c7, 0x113ca, 0x113cf, 0x113d0, 0x113d1, 0x113d2, 0x114b0, 0x114b1,
    0x114bd, 0x114be, 0x115af, 0x115b0, 0x116b6, 0x116b7, 0x11930, 0x11931, 0x1193d, 0x1193e,
    0x1193f, 0x11940, 0x11941, 0x11942, 0x11a84, 0x11a8a, 0x11d46, 0x11d47, 0x11f02, 0x11f03,
    0x11f41, 0x11f42, 0x16ff0, 0x16ff2, 0x1d165, 0x1d167, 0x1d16d, 0x1d173, 0xe0000, 0xe0001,
    0xe0002, 0xe0020, 0xe0080, 0xe0100, 0xe01f0, 0xe1000]

/-- Characters without a column across which a lam and an alef join. -/
private def isArabicMark (c : Char) : Bool := zeroWidth.contains c && !opaqueMarks.contains c

/-- Quotation marks that can be as wide as an ideograph. -/
private def isQuotation (c : Char) : Bool := [0x2018, 0x2019, 0x201c, 0x201d].contains c.toNat

namespace Joint

/-- The joint that a character makes by itself. -/
def ofChar (c : Char) : Joint :=
  if isTone c then tone
  else if isFlagLetter c then flagLetter
  else if Text.emoji.contains c then emoji
  else if isAlef c then alef
  else if isTifinagh c then tifinagh false
  else if isKhmerBase c then khmer
  else if inRange 0xa4fc 0xa4fd c then lisuTone
  else match c.toNat with
    | 0x5dc => lamed false
    | 0x1a10 => ya false
    | 0x10c03 => turkicI false
    | 0x16d67 => kiratE
    | 0x16d68 => kiratAi
    | _ => plain

/-- Whether a joint lasts over characters without a shape. -/
def lasts : Joint → Bool
  | lamed _ | ya _ | yaVowel | tifinagh _ | tifinaghJoiner | lisuTone | turkicI _ | khmer => true
  | _ => false

/-- Whether a joint lasts over a selector. -/
def outlastsSelector (joint : Joint) (selector : Selector) : Bool :=
  joint == alef || joint.lasts
    || (selector == .picture && (joint == joiner || joint == keycap))

/-- A joint that lasts, with a joiner in front of it. -/
def withJoiner : Joint → Joint
  | lamed _ => lamed true
  | ya _ => ya true
  | tifinagh _ => tifinagh true
  | turkicI _ => turkicI true
  | joint => joint

def takesJoiner : Joint → Bool
  | emoji | tone | flagLetters | joinedEven | joinedOdd => true
  | _ => false

/-- How letters of a script join: the columns that the letter adds, and the new joint. -/
def meetScript? (c : Char) : Joint → Option (Int × Joint)
  | alef => if isLam c then some (0, plain) else if isArabicMark c then some (0, alef) else none
  | lamed true => if c == '\u05D0' then some (0, plain) else none
  | khmer => if c == '\u17D2' then some (-1, plain) else none
  | ya true => if c == '\u1A17' then some (0, yaVowel) else none
  | yaVowel => if c == '\u1A15' then some (0, plain) else none
  | tifinagh joined =>
    if c == '\u2D7F' then some (1, tifinaghJoiner)
    else if joined && isTifinagh c then some (0, plain)
    else none
  | tifinaghJoiner => if isTifinagh c then some (-1, plain) else none
  | lisuTone => if inRange 0xa4f8 0xa4fb c then some (0, plain) else none
  | turkicI true => if c.toNat == 0x10c32 then some (0, plain) else none
  | kiratE =>
    match c.toNat with
    | 0x16d63 => some (0, plain)
    | 0x16d67 => some (0, kiratAi)
    | 0x16d68 => some (1, kiratE)
    | 0x16d69 => some (0, plain)
    | _ => none
  | kiratAi => if c.toNat == 0x16d63 then some (0, plain) else none
  | _ => none

/-- How a character joins an emoji behind a joiner: it adds no column of its own. -/
def meetJoiner? (c : Char) : Option (Int × Joint) :=
  if c == '\u20E3' then some (0, keycap)
  else if isFlagLetter c then some (1, joinedLetter)
  else if isTone c then some (0, tone)
  else if c.toNat == 0xe007f then some (0, tagLetters 0)
  else if Text.emoji.contains c then some (0, emoji)
  else none

/-- How emoji and the parts of flags join: the columns that the character adds, and the new
joint. -/
def meetEmoji? (c : Char) (joint : Joint) : Option (Int × Joint) :=
  if c == zeroJoiner && joint.takesJoiner then some (0, joiner)
  else match joint with
    | tone => if toneBases.contains c then some (0, emoji) else none
    | flagLetter | flagLetters => if isFlagLetter c then some (1, flagLetters) else none
    | joiner => meetJoiner? c
    | joinedLetter | joinedOdd => if isFlagLetter c then some (-1, joinedEven) else none
    | joinedEven => if isFlagLetter c then some (3, joinedOdd) else none
    | tagLetters n =>
      if isTagLetter c && n < 6 then some (0, tagLetters (n + 1))
      else if isTagDigit c && n ≤ 4 then some (0, tagDigits 1)
      else if c.toNat == 0x1f3f4 && n ≥ 3 then some (0, emoji)
      else none
    | tagDigits n =>
      if isTagDigit c && n < 3 then some (0, tagDigits (n + 1))
      else if c.toNat == 0x1f3f4 && n == 3 then some (0, emoji)
      else none
    | _ => none

/-- The columns that a character adds in front of a joint, and the joint that it makes. -/
def meet (c : Char) (joint : Joint) : Int × Joint :=
  if joint.lasts && c == zeroJoiner then (0, joint.withJoiner)
  else if joint.lasts && isInvisibleMark c then (0, joint)
  else match joint.meetScript? c <|> joint.meetEmoji? c with
    | some met => met
    | none => (charColumns c, ofChar c)

end Joint

/-- What stands behind a place in a line: a joint, and a selector in front of it. -/
structure Behind where
  joint : Joint := .plain
  selector : Option Selector := none
deriving DecidableEq, Repr

namespace Behind

/-- With a selector in front, which takes the place of another. -/
def select (behind : Behind) (selector : Selector) : Behind where
  joint := if behind.joint.outlastsSelector selector then behind.joint else .plain
  selector := some selector

/-- Without the selector, which does not concern the character in front of it. -/
def withoutSelector (behind : Behind) : Behind where
  joint := if behind.joint == .joiner || behind.joint == .keycap then .plain else behind.joint

def drawn? (c : Char) (behind : Behind) : Option (Int × Behind) :=
  match behind.selector with
  | some .picture =>
    if emojiStarts.contains c then
      some (if behind.joint == .joiner || behind.joint == .keycap then 0 else 2, ⟨.emoji, none⟩)
    else none
  | some .sign => if textStarts.contains c then some (1, {}) else none
  | some .wide => if isQuotation c then some (2, {}) else none
  | none => none

/-- The columns that a character adds to a line, and what then stands behind the place in front
of it. -/
def add (c : Char) (behind : Behind) : Int × Behind :=
  match Selector.ofChar? c with
  | some selector => (0, behind.select selector)
  | none =>
    match behind.drawn? c with
    | some drawn => drawn
    | none =>
      if c.toNat ≤ 0xa0 then (1, {})
      else
        let behind := if behind.selector.isSome then behind.withoutSelector else behind
        let (columns, joint) := behind.joint.meet c
        (columns, ⟨joint, none⟩)

end Behind

def columns (text : String) : Nat :=
  let (total, _) := text.toList.foldr
    (fun c (total, behind) =>
      let (columns, behind) := Behind.add c behind
      (total + columns, behind))
    ((0 : Int), ({} : Behind))
  total.toNat

end MacDispatch.Text
