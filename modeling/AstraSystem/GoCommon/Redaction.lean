import AstraSystem.Lib.Regex

/-!
# What is redacted of a log line (`observability/logger.go`)

A text is gone through rune by rune, and a byte that is no UTF-8 is a rune of its own. Where it matters what became of a
rune it is followed through the redaction: then a character is a rune and its place in the text.
-/

namespace GoCommon.Redaction

open Regex

inductive Rune where
  | char (c : Char)
  | invalid (b : UInt8)
  deriving DecidableEq, Repr

/-- A byte that is no UTF-8 is in no class. -/
def Rune.is (class' : Char → Bool) : Rune → Bool
  | .char c => class' c
  | .invalid _ => false

/-- `\d`. -/
def digit : Rune → Bool := Rune.is Char.isDigit

/-- `\w`, which has no letters but those of ASCII. -/
def word : Rune → Bool := Rune.is fun c => c.isAlphanum || c == '_'

/-- `\s`. -/
def space : Rune → Bool := Rune.is fun c => c == ' ' || c == '\t' || c == '\n' || c == '\r' || c == Char.ofNat 12

/-- `[\s-]`. -/
def separator (r : Rune) : Bool := space r || r == .char '-'

def panDigit : Expr Rune := .seq (.chars digit) (.lazyStar separator)

def panRegex : Pattern Rune where
  group := .empty
  value := .seq (.boundary word) (.seq (.between panDigit 13 19) (.boundary word))

/-- `(?i)`. Two letters beyond ASCII fold to one of ASCII: the sign of kelvins and the long s. -/
def fold (c : Char) : Char :=
  if c.toNat = 0x212A then 'k' else if c.toNat = 0x17F then 's' else c.toLower

def folded (class' : Char → Bool) : Rune → Bool := Rune.is (class' ∘ fold)

def text (s : List Char) : Expr Rune := .literal (s.map fun c => folded (· == c))

def hex : Rune → Bool := folded fun c => c.isDigit || ('a' ≤ c && c ≤ 'f')

def base64 : Rune → Bool := folded fun c => c.isDigit || ('a' ≤ c && c ≤ 'z') || c == '+' || c == '/' || c == '='

def doubleQuote : Rune → Bool := Rune.is (· == '"')

def quote : Rune → Bool := Rune.is fun c => c == '"' || c == '\''

def biometricRegex : Pattern Rune where
  group :=
    .seq (.optional (.chars doubleQuote)) <|
    .seq (.oneOf (text "biometric".toList) (["fingerprint", "faceprint", "iris", "vein", "face", "palm"].map
      fun s => text s.toList)) <|
    .seq (.optional (text ['_'])) <|
    .seq (.oneOf (text "hash".toList) (["template", "signature", "vector", "feature", "print", "data", "token"].map
      fun s => text s.toList)) <|
    .seq (.optional (.chars doubleQuote)) <|
    .seq (.star space) <|
    .seq (.chars (Rune.is fun c => c == ':' || c == '=')) <|
    .star space
  value :=
    .seq (.optional (.chars quote)) <|
    .seq (.alt (.between (.chars hex) 32 128) (.seq (text "base64,".toList) (.atLeast base64 40))) <|
    .optional (.chars quote)

def digitValue : Rune → ℕ
  | .char c => c.toNat - 48
  | .invalid _ => 0

/-- From the last digit on, every other one counts twice, less nine if that is more than nine. -/
def luhnCheck (digits : List Rune) : Bool :=
  if digits.length < 13 then false
  else
    let sum := digits.reverse.foldl (fun (st : ℕ × Bool) r =>
      let d := digitValue r
      let d := if st.2 then (if 9 < d * 2 then d * 2 - 9 else d * 2) else d
      (st.1 + d, !st.2)) (0, false)
    sum.1 % 10 = 0

section
variable {α : Type} (rune : α → Rune) (fresh : Rune → α)

def digitsOnly (l : List α) : List α := l.filter fun a => digit (rune a)

def maskPAN (pan : List α) : List α :=
  if pan.length ≤ 10 then List.replicate pan.length (fresh (.char '*'))
  else pan.take 6 ++ List.replicate (pan.length - 10) (fresh (.char '*')) ++ pan.drop (pan.length - 4)

/-- The digits of what panRegex matches are those of a card. -/
def passes (match' : List α) : Bool :=
  let digits := digitsOnly rune match'
  13 ≤ digits.length && digits.length ≤ 19 && luhnCheck (digits.map rune)

def replacePAN : Piece α → List α
  | .plain a => [a]
  | .found group value =>
    let match' := group ++ value
    if passes rune match' then maskPAN fresh (digitsOnly rune match') else match'

def replaceBiometric : Piece α → List α
  | .plain a => [a]
  | .found group _ => group ++ ("[REDACTED]".toList.map fun c => fresh (.char c))

def panPieces (input : List α) : List (Piece α) := (panRegex.comap rune).pieces input

/-- The text in which cards are masked. -/
def maskCards (input : List α) : List α := (panPieces rune input).flatMap (replacePAN rune fresh)

def biometricPieces (input : List α) : List (Piece α) := (biometricRegex.comap rune).pieces input

def redact (input : List α) : List α :=
  (biometricPieces rune (maskCards rune fresh input)).flatMap (replaceBiometric fresh)

end

def redactPII (input : List Rune) : List Rune := redact id id input

end GoCommon.Redaction
