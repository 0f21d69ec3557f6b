import PadGraph.Json

/-!
# The lexemes of a JSON text

A JSON text is first cut into its marks and its values without parts. Blanks, tabs and line ends
between them are dropped.

* `Json.Lexeme` — a mark or a value without parts.
* `Json.unitsOf` — the code units of a string, up to its closing quote.
* `Json.joinSurrogates` — code units as characters.
* `Json.lexemes` — the lexemes of a text, if it can be cut into lexemes.
-/

namespace PadGraph

namespace Json

/-- One unit of a JSON text. -/
inductive Lexeme where
  | openArray
  | closeArray
  | openObject
  | closeObject
  | comma
  | colon
  /-- A string, which is a key or a value. -/
  | string (content : Option Text)
  /-- Any other value without parts. -/
  | scalar (value : Json)
  deriving Repr, Inhabited

/-- The characters that may stand between lexemes. -/
def isBlank (c : Char) : Bool := c == ' ' || c == '\t' || c == '\n' || c == '\r'

/-! ### Strings -/

/-- The character that a one-letter escape stands for. -/
def unescape? (c : Char) : Option Char :=
  match c with
  | '"' => some '"'
  | '\\' => some '\\'
  | '/' => some '/'
  | 'b' => some '\x08'
  | 'f' => some '\x0c'
  | 'n' => some '\n'
  | 'r' => some '\r'
  | 't' => some '\t'
  | _ => none

/-- Puts a code unit before those that have been read. -/
def addUnit (unit : Nat) (read : List Nat × Text) : List Nat × Text := (unit :: read.1, read.2)

/-- The code units of a string whose opening quote has been read, and what stands behind its
closing quote. Control characters and unknown escapes are refused. -/
def unitsOf : Text → Option (List Nat × Text)
  | [] => none
  | '"' :: rest => some ([], rest)
  | '\\' :: 'u' :: a :: b :: c :: d :: rest =>
    (Text.ofHex? [a, b, c, d]).bind fun unit => (unitsOf rest).map (addUnit unit)
  | '\\' :: c :: rest =>
    (unescape? c).bind fun escaped => (unitsOf rest).map (addUnit escaped.toNat)
  | c :: rest =>
    if c.toNat < 32 ∨ c = '\\' then none else (unitsOf rest).map (addUnit c.toNat)

/-- Whether a code unit is the first half of a surrogate pair. -/
def isHighSurrogate (unit : Nat) : Bool := 0xD800 ≤ unit && unit < 0xDC00

/-- Whether a code unit is the second half of a surrogate pair. -/
def isLowSurrogate (unit : Nat) : Bool := 0xDC00 ≤ unit && unit < 0xE000

/-- The characters of a list of code units, unless one half of a surrogate pair stands alone. -/
def joinSurrogates : List Nat → Option Text
  | [] => some []
  | [unit] =>
    if isHighSurrogate unit || isLowSurrogate unit then none else some [Char.ofNat unit]
  | unit :: next :: units =>
    if isHighSurrogate unit then
      if isLowSurrogate next then
        (joinSurrogates units).map
          (Char.ofNat (0x10000 + (unit - 0xD800) * 0x400 + (next - 0xDC00)) :: ·)
      else none
    else if isLowSurrogate unit then none
    else (joinSurrogates (next :: units)).map (Char.ofNat unit :: ·)

/-! ### Numbers -/

/-- The digits at the front of a text, at least one. -/
def digits? (text : Text) : Option (Text × Text) :=
  if (text.takeWhile Char.isDigit).isEmpty then none
  else some (text.takeWhile Char.isDigit, text.dropWhile Char.isDigit)

/-- The whole part of a number: a zero alone, or digits of which the first is no zero. -/
def wholePart? : Text → Option (Text × Text)
  | '0' :: rest => some (['0'], rest)
  | text => digits? text

/-- The fraction at the front of a text, which may be absent. -/
def fraction? : Text → Option (Text × Text)
  | '.' :: rest => (digits? rest).map fun read => ('.' :: read.1, read.2)
  | text => some ([], text)

/-- A sign at the front of a text, if there is one of the given ones. -/
def sign (signs : List Char) : Text → Text × Text
  | c :: rest => if c ∈ signs then ([c], rest) else ([], c :: rest)
  | [] => ([], [])

/-- The exponent at the front of a text, which may be absent. -/
def exponent? : Text → Option (Text × Text)
  | c :: rest =>
    if c = 'e' ∨ c = 'E' then
      (digits? (sign ['+', '-'] rest).2).map fun read =>
        (c :: (sign ['+', '-'] rest).1 ++ read.1, read.2)
    else some ([], c :: rest)
  | [] => some ([], [])

/-- The number at the front of a text, as it is written. -/
def number? (text : Text) : Option (Text × Text) :=
  (wholePart? (sign ['-'] text).2).bind fun whole =>
    (fraction? whole.2).bind fun fraction =>
      (exponent? fraction.2).map fun exponent =>
        ((sign ['-'] text).1 ++ whole.1 ++ fraction.1 ++ exponent.1, exponent.2)

/-! ### Lexemes -/

/-- The rest of a text behind a given beginning. -/
def behind? : (beginning : Text) → Text → Option Text
  | [], text => some text
  | c :: beginning, d :: text => if c = d then behind? beginning text else none
  | _ :: _, [] => none

/-- The lexeme at the front of a text, which does not begin with a blank. -/
def lexeme? : Text → Option (Lexeme × Text)
  | [] => none
  | '[' :: rest => some (.openArray, rest)
  | ']' :: rest => some (.closeArray, rest)
  | '\x7b' :: rest => some (.openObject, rest)
  | '\x7d' :: rest => some (.closeObject, rest)
  | ',' :: rest => some (.comma, rest)
  | ':' :: rest => some (.colon, rest)
  | '"' :: rest => (unitsOf rest).map fun read => (.string (joinSurrogates read.1), read.2)
  | 'n' :: rest => (behind? ['u', 'l', 'l'] rest).map (.scalar .null, ·)
  | 't' :: rest => (behind? ['r', 'u', 'e'] rest).map (.scalar (.boolean true), ·)
  | 'f' :: rest => (behind? ['a', 'l', 's', 'e'] rest).map (.scalar (.boolean false), ·)
  | text => (number? text).map fun read => (.scalar (.number read.1), read.2)

/-! ### Every reading moves on -/

theorem unitsOf_shorter {text : Text} {read : List Nat × Text} (h : unitsOf text = some read) :
    read.2.length < text.length := by
  fun_induction unitsOf text generalizing read with
  | case1 => simp at h
  | case2 => cases h; simp
  | case3 a b c d text ih =>
    obtain ⟨_, _, hmap⟩ := Option.bind_eq_some_iff.1 h
    obtain ⟨inner, hinner, rfl⟩ := Option.map_eq_some_iff.1 hmap
    have := ih hinner
    simp only [addUnit, List.length_cons]
    omega
  | case4 c text _ ih =>
    obtain ⟨_, _, hmap⟩ := Option.bind_eq_some_iff.1 h
    obtain ⟨inner, hinner, rfl⟩ := Option.map_eq_some_iff.1 hmap
    have := ih hinner
    simp only [addUnit, List.length_cons]
    omega
  | case5 => simp at h
  | case6 c text _ _ _ _ ih =>
    obtain ⟨inner, hinner, rfl⟩ := Option.map_eq_some_iff.1 h
    have := ih hinner
    simp only [addUnit, List.length_cons]
    omega

theorem behind?_shorter {beginning text rest : Text} (h : behind? beginning text = some rest) :
    rest.length ≤ text.length := by
  fun_induction behind? beginning text with
  | case1 => cases h; exact Nat.le_refl _
  | case2 c beginning text ih => have := ih h; simp only [List.length_cons]; omega
  | case3 => simp at h
  | case4 => simp at h

theorem digits?_shorter {text : Text} {read : Text × Text} (h : digits? text = some read) :
    read.2.length < text.length := by
  unfold digits? at h
  split at h
  · simp at h
  · rename_i hne
    cases h
    have hlen := congrArg List.length
      (List.takeWhile_append_dropWhile (p := Char.isDigit) (l := text))
    have : 0 < (text.takeWhile Char.isDigit).length := by
      rw [List.length_pos_iff]; simpa using hne
    rw [List.length_append] at hlen
    show (text.dropWhile Char.isDigit).length < text.length
    omega

theorem wholePart?_shorter {text : Text} {read : Text × Text} (h : wholePart? text = some read) :
    read.2.length < text.length := by
  unfold wholePart? at h
  split at h
  · cases h; simp
  · exact digits?_shorter h

theorem fraction?_shorter {text : Text} {read : Text × Text} (h : fraction? text = some read) :
    read.2.length ≤ text.length := by
  unfold fraction? at h
  split at h
  · obtain ⟨inner, hinner, rfl⟩ := Option.map_eq_some_iff.1 h
    have := digits?_shorter hinner
    simp only [List.length_cons]
    omega
  · cases h; exact Nat.le_refl _

theorem sign_shorter (signs : List Char) (text : Text) :
    (sign signs text).2.length ≤ text.length := by
  unfold sign
  split
  · split <;> simp
  · simp

theorem exponent?_shorter {text : Text} {read : Text × Text} (h : exponent? text = some read) :
    read.2.length ≤ text.length := by
  unfold exponent? at h
  split at h
  · split at h
    · obtain ⟨inner, hinner, rfl⟩ := Option.map_eq_some_iff.1 h
      have hdigits := digits?_shorter hinner
      have hsign := sign_shorter ['+', '-'] (by assumption)
      simp only [List.length_cons]
      omega
    · cases h; exact Nat.le_refl _
  · cases h; exact Nat.le_refl _

theorem number?_shorter {text : Text} {read : Text × Text} (h : number? text = some read) :
    read.2.length < text.length := by
  obtain ⟨whole, hwhole, hrest⟩ := Option.bind_eq_some_iff.1 h
  obtain ⟨fraction, hfraction, hmap⟩ := Option.bind_eq_some_iff.1 hrest
  obtain ⟨exponent, hexponent, rfl⟩ := Option.map_eq_some_iff.1 hmap
  have h1 := sign_shorter ['-'] text
  have h2 := wholePart?_shorter hwhole
  have h3 := fraction?_shorter hfraction
  have h4 := exponent?_shorter hexponent
  show exponent.2.length < text.length
  omega

theorem lexeme?_shorter {text : Text} {read : Lexeme × Text} (h : lexeme? text = some read) :
    read.2.length < text.length := by
  unfold lexeme? at h
  split at h
  case h_1 => simp at h
  case h_8 =>
    obtain ⟨inner, hinner, rfl⟩ := Option.map_eq_some_iff.1 h
    have := unitsOf_shorter hinner
    simp only [List.length_cons]
    omega
  case h_12 =>
    obtain ⟨inner, hinner, rfl⟩ := Option.map_eq_some_iff.1 h
    exact number?_shorter hinner
  case h_9 | h_10 | h_11 =>
    obtain ⟨inner, hinner, rfl⟩ := Option.map_eq_some_iff.1 h
    have := behind?_shorter hinner
    simp only [List.length_cons]
    omega
  all_goals cases h; simp

/-! ### Cutting a text -/

/-- The lexemes of a text; no answer when some of it belongs to no lexeme. -/
def lexemes (text : Text) : Option (List Lexeme) :=
  match text with
  | [] => some []
  | c :: rest =>
    if isBlank c then lexemes rest
    else
      match _h : lexeme? (c :: rest) with
      | none => none
      | some read => (lexemes read.2).map (read.1 :: ·)
termination_by text.length
decreasing_by
  · simp
  · exact lexeme?_shorter _h

end Json

end PadGraph
