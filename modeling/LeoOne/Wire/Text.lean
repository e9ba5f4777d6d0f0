import Mathlib.Data.List.TakeWhile
import LeoOne.Wire.Numbers

/-!
# JSON texts

The texts that cJSON prints without formatting, and the scanner of `encoding/json` on
them.  The scanner leaves the literals of numbers and strings as they stand in the text;
what they denote is decided by the field they are stored in.  The texts here have no
blanks between their tokens.
-/

namespace LeoOne
namespace Wire

/-- A scanned value. -/
inductive Raw where
  | null
  | bool (b : Bool)
  | num (literal : List UInt8)
  | str (literal : List UInt8)
  | arr (items : List Raw)
  | obj (fields : List (List UInt8 × Raw))

/-!
## The scanner
-/

def isHexByte (b : UInt8) : Bool :=
  isDigit b || (97 ≤ b.toNat && b.toNat ≤ 102) || (65 ≤ b.toNat && b.toNat ≤ 70)

/-- The bytes after a backslash that stand for one character: `"\/bfnrt`. -/
def isSimpleEscape (b : UInt8) : Bool :=
  [34, 92, 47, 98, 102, 110, 114, 116].contains b

/-- The rest of a string literal up to its closing quote, and what follows it. -/
def scanString : List UInt8 -> Option (List UInt8 × List UInt8)
  | [] => none
  | b :: rest =>
      if b = 34 then some ([], rest)
      else if b = 92 then
        match rest with
        | [] => none
        | c :: rest' =>
            if isSimpleEscape c then
              (scanString rest').map fun r => (92 :: c :: r.1, r.2)
            else if c = 117 then
              match rest' with
              | h :: i :: j :: k :: rest'' =>
                  if [h, i, j, k].all isHexByte then
                    (scanString rest'').map fun r =>
                      (92 :: 117 :: h :: i :: j :: k :: r.1, r.2)
                  else none
              | _ => none
            else none
      else if b.toNat < 32 then none
      else (scanString rest).map fun r => (b :: r.1, r.2)

/-- The bytes of number literals. -/
def isNumberByte (b : UInt8) : Bool :=
  isDigit b || [43, 45, 46, 69, 101].contains b

/-- `null`, `true`, `false` or a number. -/
def scanLiteral (text : List UInt8) : Option (Raw × List UInt8) :=
  if text.take 4 = utf8 "null" then some (Raw.null, text.drop 4)
  else if text.take 4 = utf8 "true" then some (Raw.bool true, text.drop 4)
  else if text.take 5 = utf8 "false" then some (Raw.bool false, text.drop 5)
  else if isNumber (text.takeWhile isNumberByte) then
    some (Raw.num (text.takeWhile isNumberByte), text.dropWhile isNumberByte)
  else none

mutual

def scanValue : Nat -> List UInt8 -> Option (Raw × List UInt8)
  | 0, _ => none
  | _ + 1, [] => none
  | fuel + 1, b :: rest =>
      if b = 34 then (scanString rest).map fun r => (Raw.str r.1, r.2)
      else if b = 91 then
        if rest.head? = some 93 then some (Raw.arr [], rest.tail)
        else (scanItems fuel rest).map fun r => (Raw.arr r.1, r.2)
      else if b = 123 then
        if rest.head? = some 125 then some (Raw.obj [], rest.tail)
        else (scanFields fuel rest).map fun r => (Raw.obj r.1, r.2)
      else scanLiteral (b :: rest)

/-- The items of an array, up to its closing bracket. -/
def scanItems : Nat -> List UInt8 -> Option (List Raw × List UInt8)
  | 0, _ => none
  | fuel + 1, text =>
      match scanValue fuel text with
      | some (item, b :: rest) =>
          if b = 44 then (scanItems fuel rest).map fun r => (item :: r.1, r.2)
          else if b = 93 then some ([item], rest)
          else none
      | _ => none

/-- The members of an object, up to its closing brace. -/
def scanFields : Nat -> List UInt8 -> Option (List (List UInt8 × Raw) × List UInt8)
  | 0, _ => none
  | _ + 1, [] => none
  | fuel + 1, q :: text =>
      if q ≠ 34 then none
      else
        match scanString text with
        | some (key, colon :: text') =>
            if colon ≠ 58 then none
            else
              match scanValue fuel text' with
              | some (value, b :: rest) =>
                  if b = 44 then
                    (scanFields fuel rest).map fun r => ((key, value) :: r.1, r.2)
                  else if b = 125 then some ([(key, value)], rest)
                  else none
              | _ => none
        | _ => none

end

/-- `json.Unmarshal`, up to the storing of the value. -/
def unmarshal (text : List UInt8) : Option Raw :=
  match scanValue text.length text with
  | some (value, []) => some value
  | _ => none

/-!
## Texts with their values
-/

/-- The text ends where a literal would end, too. -/
def Ends (rest : List UInt8) : Prop :=
  forall b, rest.head? = some b -> isNumberByte b = false

/-- The scanner reads this value from the text and stops after it. -/
def ScansAs (text : List UInt8) (raw : Raw) : Prop :=
  forall fuel rest, text.length ≤ fuel -> Ends rest ->
    scanValue fuel (text ++ rest) = some (raw, rest)

/-- A printed item: its text, with the value that the scanner reads from it. -/
structure Printed where
  text : List UInt8
  raw : Raw
  scans : ScansAs text raw

theorem unmarshal_printed (p : Printed) : unmarshal p.text = some p.raw := by
  have hscan := p.scans p.text.length [] (Nat.le_refl _) nofun
  rw [List.append_nil] at hscan
  rw [unmarshal, hscan]

/-!
## Numbers
-/

theorem isNumberByte_of_isDigit {b : UInt8} (h : isDigit b = true) :
    isNumberByte b = true := by
  rw [isNumberByte, h, Bool.true_or]

theorem all_numberByte_digits {ds : List UInt8} (h : ds.all isDigit = true) :
    ds.all isNumberByte = true := by
  apply List.all_eq_true.mpr
  intro b hb
  exact isNumberByte_of_isDigit (List.all_eq_true.mp h b hb)

theorem all_of_isExponent {text : List UInt8} (h : isExponent text = true) :
    text.all isNumberByte = true := by
  unfold isExponent at h
  split at h
  · rfl
  all_goals
    simp only [Bool.and_eq_true, Bool.or_eq_true, decide_eq_true_eq] at h
    have hdigits := all_numberByte_digits h.right
    rcases h.left.left with rfl | rfl <;> simp [hdigits] <;> decide

theorem all_of_dropWhile {text : List UInt8}
    (h : (text.dropWhile isDigit).all isNumberByte = true) :
    text.all isNumberByte = true := by
  rw [← List.takeWhile_append_dropWhile (p := isDigit) (l := text), List.all_append, h,
    Bool.and_true]
  exact all_numberByte_digits List.all_takeWhile

theorem all_of_isFraction {text : List UInt8} (h : isFraction text = true) :
    text.all isNumberByte = true := by
  unfold isFraction at h
  split at h
  · rw [Bool.and_eq_true] at h
    rw [List.all_cons, all_of_dropWhile (all_of_isExponent h.right)]
    rfl
  · exact all_of_isExponent h

theorem all_of_isUnsigned {text : List UInt8} (h : isUnsigned text = true) :
    text.all isNumberByte = true := by
  rw [isUnsigned, Bool.and_eq_true] at h
  exact all_of_dropWhile (all_of_isFraction h.right)

theorem all_of_isNumber {text : List UInt8} (h : isNumber text = true) :
    text.all isNumberByte = true := by
  unfold isNumber at h
  split at h
  · rw [List.all_cons, all_of_isUnsigned h]
    rfl
  · exact all_of_isUnsigned h

/-- A number literal begins with a digit or a minus sign. -/
theorem head_of_isNumber {text : List UInt8} (h : isNumber text = true) :
    exists b rest, text = b :: rest ∧ (isDigit b = true ∨ b = 45) := by
  unfold isNumber at h
  split at h
  · rename_i rest
    exact ⟨45, rest, rfl, Or.inr rfl⟩
  · cases text with
    | nil =>
        cases h
    | cons b rest =>
        exact ⟨b, rest, rfl, Or.inl (isDigit_head h rfl)⟩

/-- No other token begins like a number. -/
theorem number_head_ne {b : UInt8} (h : isDigit b = true ∨ b = 45) :
    b ≠ 34 ∧ b ≠ 91 ∧ b ≠ 123 ∧ b ≠ 110 ∧ b ≠ 116 ∧ b ≠ 102 := by
  refine ⟨?_, ?_, ?_, ?_, ?_, ?_⟩ <;>
    (rintro rfl; rcases h with h | h <;> revert h <;> decide)

theorem scanLiteral_number {literal rest : List UInt8} (h : isNumber literal = true)
    (hrest : Ends rest) :
    scanLiteral (literal ++ rest) = some (Raw.num literal, rest) := by
  rcases head_of_isNumber h with ⟨b, tail, rfl, hb⟩
  rcases number_head_ne hb with ⟨_, _, _, hnull, htrue, hfalse⟩
  have hspan := takeWhile_of_all _ rest (all_of_isNumber h) hrest
  rw [scanLiteral, hspan.left, hspan.right, if_neg, if_neg, if_neg, if_pos h]
  · intro heq
    exact hfalse (List.cons.inj heq).left
  · intro heq
    exact htrue (List.cons.inj heq).left
  · intro heq
    exact hnull (List.cons.inj heq).left

theorem scansAs_number {literal : List UInt8} (h : isNumber literal = true) :
    ScansAs literal (Raw.num literal) := by
  intro fuel rest hfuel hrest
  have hscan := scanLiteral_number h hrest
  rcases head_of_isNumber h with ⟨b, tail, rfl, hb⟩
  rcases number_head_ne hb with ⟨hquote, hbracket, hbrace, _, _, _⟩
  cases fuel with
  | zero =>
      cases hfuel
  | succ fuel =>
      rw [List.cons_append] at hscan ⊢
      rw [scanValue, if_neg hquote, if_neg hbracket, if_neg hbrace]
      exact hscan

/-- A number that is printed with this literal. -/
def Printed.literal (text : List UInt8) (h : isNumber text = true) : Printed where
  text := text
  raw := Raw.num text
  scans := scansAs_number h

/-- `print_number` of an integer. -/
def Printed.number (v : Int) : Printed :=
  Printed.literal (printNumber v) (isNumber_printNumber v)

/-- The text of a value that is no number, and of the null value. -/
def Printed.null : Printed where
  text := utf8 "null"
  raw := Raw.null
  scans := by
    intro fuel rest hfuel _
    cases fuel with
    | zero =>
        cases hfuel
    | succ fuel =>
        rfl

/-- The value of a number literal rounds to a finite double, so that `strconv.ParseFloat`
accepts it. -/
def isFloat64 (literal : List UInt8) : Bool :=
  let unsigned := if literal.head? = some 45 then literal.tail else literal
  let whole := unsigned.takeWhile isDigit
  let tail := unsigned.dropWhile isDigit
  let fraction := if tail.head? = some 46 then tail.tail.takeWhile isDigit else []
  let exponent := if tail.head? = some 46 then tail.tail.dropWhile isDigit else tail
  let shift : Int :=
    match exponent with
    | _ :: 45 :: digits => -(decimalValue digits : Int)
    | _ :: 43 :: digits => decimalValue digits
    | _ :: digits => decimalValue digits
    | [] => 0
  let power := shift - fraction.length
  decimalValue (whole ++ fraction) * 10 ^ power.toNat <
    (2 ^ 1024 - 2 ^ 970) * 10 ^ (-power).toNat

/-- A double, by the text that `print_number` gives it. -/
inductive Double where
  | notFinite
  | finite (literal : List UInt8) (number : isNumber literal = true)
      (range : isFloat64 literal = true)

def Printed.double : Double -> Printed
  | Double.notFinite => Printed.null
  | Double.finite literal number _ => Printed.literal literal number

/-!
## Strings
-/

/-- A hexadecimal digit of `%04x`. -/
def hexByte (n : Nat) : UInt8 :=
  UInt8.ofNat (if n < 10 then 48 + n else 87 + n)

/-- One byte of a string, as `print_string_ptr` writes it. -/
def escapeByte (b : UInt8) : List UInt8 :=
  if b = 34 then [92, 34]
  else if b = 92 then [92, 92]
  else if b = 8 then [92, 98]
  else if b = 12 then [92, 102]
  else if b = 10 then [92, 110]
  else if b = 13 then [92, 114]
  else if b = 9 then [92, 116]
  else if b.toNat < 32 then [92, 117, 48, 48, hexByte (b.toNat / 16), hexByte (b.toNat % 16)]
  else [b]

def escape (bytes : List UInt8) : List UInt8 :=
  bytes.flatMap escapeByte

theorem isHexByte_hexByte {n : Nat} (h : n < 16) : isHexByte (hexByte n) = true := by
  have hall : forall d : Fin 16, isHexByte (hexByte d.val) = true := by decide
  exact hall ⟨n, h⟩

theorem scanString_simple {c : UInt8} (h : isSimpleEscape c = true) (rest : List UInt8) :
    scanString (92 :: c :: rest) = (scanString rest).map fun r => (92 :: c :: r.1, r.2) := by
  rw [scanString.eq_def]
  simp only [h, if_true]
  rfl

theorem scanString_unicode {h i j k : UInt8} (hex : [h, i, j, k].all isHexByte = true)
    (rest : List UInt8) :
    scanString (92 :: 117 :: h :: i :: j :: k :: rest) =
      (scanString rest).map fun r => (92 :: 117 :: h :: i :: j :: k :: r.1, r.2) := by
  have hnot : isSimpleEscape 117 = false := by decide
  rw [scanString.eq_def]
  simp only [hnot, hex, if_true]
  rfl

theorem scanString_plain {b : UInt8} (hquote : b ≠ 34) (hslash : b ≠ 92)
    (hcontrol : ¬ b.toNat < 32) (rest : List UInt8) :
    scanString (b :: rest) = (scanString rest).map fun r => (b :: r.1, r.2) := by
  rw [scanString.eq_def]
  simp only [if_neg hquote, if_neg hslash, if_neg hcontrol]

/-- The scanner passes an escaped byte. -/
theorem scanString_escapeByte (b : UInt8) (rest : List UInt8) :
    scanString (escapeByte b ++ rest) =
      (scanString rest).map fun r => (escapeByte b ++ r.1, r.2) := by
  unfold escapeByte
  split_ifs with hquote hslash _ _ _ _ _ hcontrol
  -- the seven escapes of one character
  iterate 7 exact scanString_simple (by decide) rest
  · have hhigh : isHexByte (hexByte (b.toNat / 16)) = true := isHexByte_hexByte (by omega)
    have hlow : isHexByte (hexByte (b.toNat % 16)) = true := isHexByte_hexByte (by omega)
    have hzero : isHexByte 48 = true := by decide
    exact scanString_unicode (by simp [hhigh, hlow, hzero]) rest
  · exact scanString_plain hquote hslash hcontrol rest

theorem scanString_escape (bytes rest : List UInt8) :
    scanString (escape bytes ++ 34 :: rest) = some (escape bytes, rest) := by
  induction bytes with
  | nil =>
      rw [scanString.eq_def]
      rfl
  | cons b bytes ih =>
      rw [escape] at ih
      rw [escape, List.flatMap_cons, List.append_assoc, scanString_escapeByte, ih]
      rfl

/-- `print_string`. -/
def Printed.string (bytes : List UInt8) : Printed where
  text := 34 :: escape bytes ++ [34]
  raw := Raw.str (escape bytes)
  scans := by
    intro fuel rest hfuel _
    cases fuel with
    | zero =>
        cases hfuel
    | succ fuel =>
        simp only [List.cons_append, List.append_assoc, List.nil_append]
        rw [scanValue, if_pos rfl, scanString_escape]
        rfl

/-!
## Arrays and objects
-/

/-- Neither a closing bracket nor a closing brace begins a value. -/
theorem Printed.head_ne (p : Printed) (rest : List UInt8) (hrest : Ends rest) {b : UInt8}
    (hb : b = 93 ∨ b = 125) : (p.text ++ rest).head? ≠ some b := by
  intro heq
  rcases List.head?_eq_some_iff.mp heq with ⟨tail, htext⟩
  have hscan := p.scans (p.text.length + 1) rest (Nat.le_succ _) hrest
  rw [htext, scanValue] at hscan
  rcases hb with rfl | rfl
  · cases hscan
  · cases hscan

/-- The items of an array, with their separators. -/
def itemsText : List Printed -> List UInt8
  | [] => []
  | [p] => p.text
  | p :: ps => p.text ++ 44 :: itemsText ps

@[simp]
theorem itemsText_single (p : Printed) : itemsText [p] = p.text := rfl

@[simp]
theorem itemsText_cons_cons (p p' : Printed) (ps : List Printed) :
    itemsText (p :: p' :: ps) = p.text ++ 44 :: itemsText (p' :: ps) := rfl

theorem ends_cons {b : UInt8} (h : isNumberByte b = false) (rest : List UInt8) :
    Ends (b :: rest) := by
  intro b' heq
  cases heq
  exact h

theorem scanItems_printed (p : Printed) (ps : List Printed) (fuel : Nat)
    (rest : List UInt8) (hfuel : (itemsText (p :: ps)).length < fuel) :
    scanItems fuel (itemsText (p :: ps) ++ 93 :: rest) =
      some ((p :: ps).map Printed.raw, rest) := by
  induction ps generalizing p fuel with
  | nil =>
      cases fuel with
      | zero =>
          cases hfuel
      | succ fuel =>
          have hscan := p.scans fuel (93 :: rest) (Nat.le_of_lt_succ hfuel)
            (ends_cons (by decide) rest)
          rw [scanItems, itemsText_single, hscan]
          rfl
  | cons p' ps ih =>
      cases fuel with
      | zero =>
          cases hfuel
      | succ fuel =>
          simp only [itemsText_cons_cons, List.length_append, List.length_cons] at hfuel
          have hscan := p.scans fuel (44 :: (itemsText (p' :: ps) ++ 93 :: rest))
            (by omega) (ends_cons (by decide) _)
          have htail := ih p' fuel (by omega)
          rw [scanItems, itemsText_cons_cons, List.append_assoc, List.cons_append, hscan]
          simp only [if_true, htail]
          rfl

/-- What follows the opening bracket does not begin with a closing one. -/
theorem itemsText_head_ne (p : Printed) (ps : List Printed) (rest : List UInt8) :
    (itemsText (p :: ps) ++ 93 :: rest).head? ≠ some 93 := by
  cases ps with
  | nil =>
      exact p.head_ne _ (ends_cons (by decide) _) (Or.inl rfl)
  | cons p' ps =>
      rw [itemsText_cons_cons, List.append_assoc]
      exact p.head_ne _ (ends_cons (by decide) _) (Or.inl rfl)

/-- `print_array` without formatting. -/
def Printed.array (items : List Printed) : Printed where
  text := 91 :: itemsText items ++ [93]
  raw := Raw.arr (items.map Printed.raw)
  scans := by
    intro fuel rest hfuel _
    cases fuel with
    | zero =>
        cases hfuel
    | succ fuel =>
        simp only [List.cons_append, List.append_assoc, List.nil_append]
        rw [scanValue, if_neg (by decide), if_pos rfl]
        cases items with
        | nil =>
            rfl
        | cons p ps =>
            simp only [List.length_cons, List.length_append, List.length_nil] at hfuel
            rw [if_neg (itemsText_head_ne p ps rest),
              scanItems_printed p ps fuel rest (by omega)]
            rfl

/-- A member of an object, with the value printed after its key. -/
structure Member where
  key : String
  value : Printed

def Member.text (m : Member) : List UInt8 :=
  34 :: escape (utf8 m.key) ++ 34 :: 58 :: m.value.text

/-- The key and the value that the scanner reads. -/
def Member.raw (m : Member) : List UInt8 × Raw :=
  (escape (utf8 m.key), m.value.raw)

/-- The members of an object, with their separators. -/
def membersText : List Member -> List UInt8
  | [] => []
  | [m] => m.text
  | m :: ms => m.text ++ 44 :: membersText ms

@[simp]
theorem membersText_single (m : Member) : membersText [m] = m.text := rfl

@[simp]
theorem membersText_cons_cons (m m' : Member) (ms : List Member) :
    membersText (m :: m' :: ms) = m.text ++ 44 :: membersText (m' :: ms) := rfl

/-- The scanner reads one member and goes on behind its value. -/
theorem scanFields_member (m : Member) (fuel : Nat) (b : UInt8) (rest : List UInt8)
    (hfuel : m.text.length ≤ fuel) (hb : isNumberByte b = false) :
    scanFields (fuel + 1) (m.text ++ b :: rest) =
      if b = 44 then (scanFields fuel rest).map fun r => (m.raw :: r.1, r.2)
      else if b = 125 then some ([m.raw], rest)
      else none := by
  rw [Member.text, List.length_append, List.length_cons, List.length_cons,
    List.length_cons] at hfuel
  have hvalue := m.value.scans fuel (b :: rest) (by omega) (ends_cons hb rest)
  rw [Member.text]
  simp only [List.cons_append, List.append_assoc]
  rw [scanFields, if_neg (by decide), scanString_escape]
  simp only [ne_eq, not_true_eq_false, if_false, hvalue]
  rfl

theorem scanFields_printed (m : Member) (ms : List Member) (fuel : Nat)
    (rest : List UInt8) (hfuel : (membersText (m :: ms)).length < fuel) :
    scanFields fuel (membersText (m :: ms) ++ 125 :: rest) =
      some ((m :: ms).map Member.raw, rest) := by
  induction ms generalizing m fuel with
  | nil =>
      cases fuel with
      | zero =>
          cases hfuel
      | succ fuel =>
          rw [membersText_single, scanFields_member m fuel 125 rest
            (Nat.le_of_lt_succ hfuel) (by decide)]
          rfl
  | cons m' ms ih =>
      cases fuel with
      | zero =>
          cases hfuel
      | succ fuel =>
          simp only [membersText_cons_cons, List.length_append, List.length_cons] at hfuel
          rw [membersText_cons_cons, List.append_assoc, List.cons_append,
            scanFields_member m fuel 44 _ (by omega) (by decide), if_pos rfl,
            ih m' fuel (by omega)]
          rfl

theorem membersText_head (m : Member) (ms : List Member) :
    (membersText (m :: ms)).head? = some 34 := by
  cases ms with
  | nil =>
      rfl
  | cons m' ms =>
      rfl

/-- `print_object` without formatting. -/
def Printed.object (members : List Member) : Printed where
  text := 123 :: membersText members ++ [125]
  raw := Raw.obj (members.map Member.raw)
  scans := by
    intro fuel rest hfuel _
    cases fuel with
    | zero =>
        cases hfuel
    | succ fuel =>
        simp only [List.cons_append, List.append_assoc, List.nil_append]
        rw [scanValue, if_neg (by decide), if_neg (by decide), if_pos rfl]
        cases members with
        | nil =>
            rfl
        | cons m ms =>
            simp only [List.length_cons, List.length_append, List.length_nil] at hfuel
            rw [if_neg, scanFields_printed m ms fuel rest (by omega)]
            · rfl
            · rw [List.head?_append, membersText_head]
              nofun

end Wire
end LeoOne
