set_option autoImplicit false

/-!
# Decimal digits

The decimal digits of a natural number, most significant first, and the numbers that digits stand
for, alone and after a sign. Reading inverts writing. Of reals it is only told which texts stand for
one.
-/

namespace CommandSynthesis.Decimal

def digitChar (d : Nat) : Char :=
  Char.ofNat (d + '0'.toNat)

def digitValue (c : Char) : Nat :=
  c.toNat - '0'.toNat

/-- The decimal digits of a number, without leading zeros. -/
def digits (n : Nat) : List Char :=
  if n < 10 then [digitChar n] else digits (n / 10) ++ [digitChar (n % 10)]

def value (text : List Char) : Nat :=
  text.foldl (fun n c => 10 * n + digitValue c) 0

/-- The longest run of digits at the front, and what follows it. -/
def spanDigits : List Char → List Char × List Char
  | [] => ([], [])
  | c :: rest =>
    if c.isDigit then
      let (run, after) := spanDigits rest
      (c :: run, after)
    else ([], c :: rest)

def ofNat (n : Nat) : String :=
  String.ofList (digits n)

def ofInt : Int → String
  | .ofNat n => ofNat n
  | .negSucc n => "-" ++ ofNat (n + 1)

/-- The digits of a number with zeros in front up to a width. -/
def padded (width n : Nat) : List Char :=
  let text := digits n
  List.replicate (width - text.length) '0' ++ text

theorem digitValue_digitChar {d : Nat} (h : d < 10) : digitValue (digitChar d) = d := by
  have all : ∀ d, d < 10 → digitValue (digitChar d) = d := by decide
  exact all d h

theorem isDigit_digitChar {d : Nat} (h : d < 10) : (digitChar d).isDigit = true := by
  have all : ∀ d, d < 10 → (digitChar d).isDigit = true := by decide
  exact all d h

theorem value_digits (n : Nat) : value (digits n) = n := by
  fun_induction digits n with
  | case1 n h => simp [value, digitValue_digitChar h]
  | case2 n h ih =>
    simp only [value, List.foldl_append, List.foldl_cons, List.foldl_nil] at ih ⊢
    rw [ih, digitValue_digitChar (Nat.mod_lt n (by decide))]
    omega

/-! ## Signs, points and exponents -/

/-- The number that a text of digits stands for. -/
def natural? (text : List Char) : Option Nat :=
  if text.isEmpty then none
  else if text.all Char.isDigit then some (value text)
  else none

/-- The integer that a text stands for: a sign or none, then digits, of which any number may be
zeros in front. -/
def integer? : List Char → Option Int
  | '-' :: rest => (natural? rest).map fun n => -(n : Int)
  | '+' :: rest => (natural? rest).map fun n => (n : Int)
  | text => (natural? text).map fun n => (n : Int)

/-- Whether a text is nothing or an exponent. -/
def isExponent : List Char → Bool
  | [] => true
  | mark :: rest =>
    let power := match rest with
      | '+' :: power => power
      | '-' :: power => power
      | power => power
    (mark = 'e' || mark = 'E') && !power.isEmpty && power.all Char.isDigit

/-- Whether a text is that of a real without a sign. -/
def isReal (text : List Char) : Bool :=
  let (whole, rest) := spanDigits text
  let (fraction, rest) := match rest with
    | '.' :: rest => spanDigits rest
    | rest => ([], rest)
  (!(whole ++ fraction).isEmpty && isExponent rest) ||
    ["inf", "infinity", "nan"].contains (String.ofList (text.map Char.toLower))

end CommandSynthesis.Decimal
