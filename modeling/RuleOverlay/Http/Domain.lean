import RuleOverlay.Text.Utf8
import RuleOverlay.Unicode.Category
import RuleOverlay.Unicode.Normal
import RuleOverlay.Unicode.Bidi
import RuleOverlay.Unicode.Joining
import RuleOverlay.Http.Domain.Mapping
import RuleOverlay.Http.Domain.Punycode
/-! # Domain names in ASCII

The host of a URL with a special scheme is written in ASCII before it is used (UTS 46, without
the transitional mapping, with hyphens anywhere and no limit on lengths). Its bytes must be
UTF-8. Every character is mapped by its status (`Domain.mapChar`): one that is disallowed
refuses the host. The result is put in Normalization Form C and split into labels at `.`.

A label that starts with `xn--` is Punycode: the rest must be ASCII and readable, and what it
reads must be neither empty nor all ASCII, must be in Normalization Form C, and must hold only
valid characters. Then every label must pass the same checks:

* it does not start with `xn--` (after reading) or with a combining mark;
* it holds none of the characters a host may not hold: a control, a space, `#`, `%`, `/`, `:`,
  `<`, `>`, `?`, `@`, `[`, `\`, `]`, `^`, `|` or DEL;
* a zero width joiner follows a virama, and a zero width non-joiner follows a virama or stands
  between a letter joining to the right and one joining to the left, with only transparent
  characters between (RFC 5892, appendix A);
* when some label holds a right-to-left character or an Arabic digit, every label keeps the
  rules of RFC 5893 for right-to-left text.

A label that is not ASCII is then written `xn--` followed by its Punycode.
-/
namespace RuleOverlay

namespace Http

namespace Domain

open Unicode

def forbidden (c : Char) : Bool :=
  c.toNat < 0x21 || c.toNat == 0x7F || "#%/:<>?@[\\]^|".toList.contains c

def labels : List Char → List (List Char)
  | [] => [[]]
  | c :: rest =>
    match labels rest with
    | [] => [[c]]
    | l :: ls => if c == '.' then [] :: l :: ls else (c :: l) :: ls

def isAscii (s : List Char) : Bool := s.all (fun c => c.toNat < 0x80)

def viramaClass : Nat := 9

def afterVirama (before : List Char) : Bool :=
  match before with
  | c :: _ => combiningClass c.toNat == viramaClass
  | [] => false

/-- Whether the first character that is not transparent joins towards the joiner: `left`
for the characters before it, read backwards, else for those after it. -/
def joinsAcross (left : Bool) : List Char → Bool
  | [] => false
  | c :: rest =>
    match joiningType c with
    | .transparent => joinsAcross left rest
    | .dualJoining => true
    | .leftJoining => left
    | .rightJoining => !left
    | _ => false

def joinersHold : List Char → List Char → Bool
  | _, [] => true
  | before, c :: rest =>
    let ok :=
      if c.toNat == 0x200D then afterVirama before
      else if c.toNat == 0x200C then
        afterVirama before || (joinsAcross true before && joinsAcross false rest)
      else true
    ok && joinersHold (c :: before) rest

def leftToRightAllowed : BidiClass → Bool
  | .leftToRight | .europeanNumber | .europeanSeparator | .commonSeparator
  | .europeanTerminator | .otherNeutral | .boundaryNeutral | .nonspacingMark => true
  | _ => false

def rightToLeftAllowed : BidiClass → Bool
  | .rightToLeft | .arabicLetter | .arabicNumber | .europeanNumber | .europeanSeparator
  | .commonSeparator | .europeanTerminator | .otherNeutral | .boundaryNeutral
  | .nonspacingMark => true
  | _ => false

def isRightToLeft : BidiClass → Bool
  | .rightToLeft | .arabicLetter | .arabicNumber => true
  | _ => false

def lastClass (classes : List BidiClass) : Option BidiClass :=
  (classes.reverse.dropWhile (· == .nonspacingMark)).head?

/-- The rules of RFC 5893 for one label: it starts with a left-to-right or right-to-left
letter; a left-to-right label holds only the classes it may and ends with a letter or a
European digit; a right-to-left label holds only the classes it may, ends with a letter, a
European or an Arabic digit, and does not hold both kinds of digits. Marks at the end do not
count. An empty label keeps them. -/
def bidiHolds (label : List Char) : Bool :=
  let classes := label.map bidiClass
  match classes with
  | [] => true
  | first :: _ =>
    match first with
    | .leftToRight =>
      classes.all leftToRightAllowed &&
        (match lastClass classes with
         | some .leftToRight | some .europeanNumber => true
         | _ => false)
    | .rightToLeft | .arabicLetter =>
      classes.all rightToLeftAllowed &&
        (match lastClass classes with
         | some .rightToLeft | some .arabicLetter | some .europeanNumber | some .arabicNumber => true
         | _ => false) &&
        !(classes.contains .europeanNumber && classes.contains .arabicNumber)
    | _ => false

def labelHolds (label : List Char) : Bool :=
  !(label.take 4 == "xn--".toList) &&
    (match label with
     | c :: _ => !isMark c
     | [] => true) &&
    !label.any forbidden &&
    joinersHold [] label

def labelUnicode (label : List Char) : Option (List Char) :=
  match label with
  | 'x' :: 'n' :: '-' :: '-' :: rest =>
    if !isAscii rest then none
    else
      match Punycode.decode rest with
      | none => none
      | some u =>
        if u.isEmpty || isAscii u || !isNfc u || !u.all isValidChar || !labelHolds u then none
        else some u
  | _ => if labelHolds label then some label else none

def labelAscii (label : List Char) : List Char :=
  if isAscii label then label else "xn--".toList ++ Punycode.encode label

def toAscii (bytes : Bytes) : Option String := do
  let s ← Utf8.decode? bytes
  let mapped ← s.toList.mapM mapChar
  let unicode ← (labels (nfc mapped.flatten)).mapM labelUnicode
  let bidi := unicode.any (fun l => l.any (fun c => isRightToLeft (bidiClass c)))
  if bidi && !unicode.all bidiHolds then none
  else some (String.ofList ((unicode.map labelAscii).intersperse ['.']).flatten)

end Domain

end Http

end RuleOverlay
