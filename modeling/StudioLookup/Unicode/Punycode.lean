import StudioLookup.Text.Basic

set_option autoImplicit false

/-! # Punycode

A label of a domain name that has characters outside ASCII travels as its ASCII characters, a
hyphen, and a sequence of numbers that says which characters to insert and where. The numbers
are written in a mixed base, least digit first, whose thresholds follow a *bias* that adapts
to the numbers seen so far.
-/

namespace StudioLookup.Unicode.Punycode

/-- The number of digits, `a` to `z` and `0` to `9`. -/
def base : Nat := 36

/-- The first code point outside ASCII. -/
def firstCode : Nat := 128

/-- The bias at the beginning. -/
def firstBias : Nat := 72

/-- Numbers and code points stay below this bound. -/
def bound : Nat := Nat.pow 2 32

/-- The threshold of the digit at position `k`, counted in steps of `base`. A digit below it
is the last one of its number. -/
def threshold (k bias : Nat) : Nat :=
  if k ≤ bias then 1 else if bias + 26 ≤ k then 26 else k - bias

theorem one_le_threshold (k bias : Nat) : 1 ≤ threshold k bias := by
  unfold threshold
  split
  · omega
  · split <;> omega

/-- Divides by 35 until the number is small, counting `k` up by `base` each time. -/
def scaleDown (delta k : Nat) : Nat × Nat :=
  if 455 < delta then scaleDown (delta / 35) (k + base) else (delta, k)
termination_by delta
decreasing_by exact Nat.div_lt_self (by omega) (by omega)

/-- The bias after the number `delta`, which made `count` characters; the first number is
damped more than the others. -/
def adapt (delta count : Nat) (isFirst : Bool) : Nat :=
  let damped := if isFirst then delta / 700 else delta / 2
  let (rest, k) := scaleDown (damped + damped / count) 0
  k + base * rest / (rest + 38)

/-! ## Reading -/

/-- The value of a digit. -/
def digitOf? (c : Char) : Option Nat :=
  if 'a' ≤ c ∧ c ≤ 'z' then some (c.toNat - 'a'.toNat)
  else if 'A' ≤ c ∧ c ≤ 'Z' then some (c.toNat - 'A'.toNat)
  else if '0' ≤ c ∧ c ≤ '9' then some (c.toNat - '0'.toNat + 26)
  else none

/-- The character with the given code point, if there is one. -/
def charOf? (n : Nat) : Option Char := if n.isValidChar then some (Char.ofNat n) else none

/-- What has been read: the characters so far, the code point and the place of the latest
insertion, the bias, and, of the number at hand, its beginning `start`, its sum `i`, and the
weight and position of its next digit. -/
structure Reading where
  output : Text
  code : Nat
  bias : Nat
  start : Nat
  i : Nat
  weight : Nat
  k : Nat

/-- The reading that starts a new number at place `i`. -/
def Reading.next (output : Text) (code bias i : Nat) : Reading :=
  ⟨output, code, bias, i, i, 1, base⟩

/-- Reads the numbers and inserts the characters they stand for. -/
def readNumbers : Reading → Text → Option Text
  | r, [] => if r.weight == 1 && r.k == base then some r.output else none
  | r, c :: t =>
      match digitOf? c with
      | none => none
      | some d =>
          let i := r.i + d * r.weight
          let threshold := threshold r.k r.bias
          if bound ≤ i then none
          else if d < threshold then
            let count := r.output.length + 1
            let code := r.code + i / count
            let place := i % count
            match charOf? code with
            | none => none
            | some x =>
                readNumbers
                  (.next (r.output.take place ++ x :: r.output.drop place) code
                    (adapt (i - r.start) count (r.start == 0)) (place + 1)) t
          else
            let weight := r.weight * (base - threshold)
            if bound ≤ weight then none
            else readNumbers { r with i := i, weight := weight, k := r.k + base } t

/-- The text written in Punycode by `t`, if there is one. A hyphen at the very beginning does
not end a sequence of ASCII characters. -/
def decode? (t : Text) : Option Text :=
  let numbers := (t.reverse.takeWhile (· != '-')).reverse
  let ascii := t.take (t.length - numbers.length - 1)
  let numbers := if ascii.isEmpty then t else numbers
  if ascii.all (·.toNat < 128) then
    readNumbers (.next ascii firstCode firstBias 0) numbers
  else none

/-! ## Writing -/

/-- The digit of a value. -/
def digitText (d : Nat) : Char :=
  if d < 26 then Char.ofNat ('a'.toNat + d) else Char.ofNat ('0'.toNat + (d - 26))

/-- Writes a number, its digits beginning at position `k`. -/
def writeNumber (bias k n : Nat) : Text :=
  let t := threshold k bias
  if n < t then [digitText n]
  else
    digitText (t + (n - t) % (base - t)) ::
      writeNumber bias (k + base) ((n - t) / (base - t))
termination_by n
decreasing_by
  have ht := one_le_threshold k bias
  have hle := Nat.div_le_self (n - threshold k bias) (base - threshold k bias)
  omega

/-- What is written while the characters are passed through: the numbers so far, the number at
hand, the bias, and the count of characters that have been written. -/
structure Writing where
  output : Text
  delta : Nat
  bias : Nat
  count : Nat
  isFirst : Bool

/-- Passes over one character of the text, writing it if its code point is `code`. -/
def writeChar (code : Nat) (w : Writing) (c : Char) : Writing :=
  if c.toNat < code then { w with delta := w.delta + 1 }
  else if c.toNat = code then
    ⟨w.output ++ writeNumber w.bias base w.delta, 0,
      adapt w.delta (w.count + 1) w.isFirst, w.count + 1, false⟩
  else w

/-- Writes all characters with the given code points, which are in ascending order; `next` is
the code point after the one that was written last. -/
def writeCodes (t : Text) : Nat → List Nat → Writing → Writing
  | _, [], w => w
  | next, code :: codes, w =>
      let w := { w with delta := w.delta + (code - next) * (w.count + 1) }
      let w := t.foldl (writeChar code) w
      writeCodes t (code + 1) codes { w with delta := w.delta + 1 }

/-- The code points of a text outside ASCII, in ascending order and each once. -/
def foreignCodes (t : Text) : List Nat :=
  (((t.map Char.toNat).filter (firstCode ≤ ·)).mergeSort (· ≤ ·)).eraseDups

/-- A text in Punycode. -/
def encode (t : Text) : Text :=
  let ascii := t.filter (·.toNat < firstCode)
  let lead := if ascii.isEmpty then [] else ascii ++ ['-']
  (writeCodes t firstCode (foreignCodes t) ⟨lead, 0, firstBias, ascii.length, true⟩).output

end StudioLookup.Unicode.Punycode
