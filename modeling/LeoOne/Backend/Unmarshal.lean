import LeoOne.Backend.Server
import LeoOne.Wire.Runes
import LeoOne.Wire.Text

/-!
# Decoding into structs

`json.Unmarshal` of `encoding/json` into the struct types of the dispatcher.  A member
is stored in the field whose tag its key matches, a null leaves the field as it is, and
a literal that the field's type does not take fails the whole decoding.
-/

namespace LeoOne
namespace Backend

open Wire

/-!
## Strings
-/

def hexValue (b : UInt8) : Nat :=
  if isDigit b then b.toNat - 48 else if 97 ≤ b.toNat then b.toNat - 87 else b.toNat - 55

/-- `getu4`, after the backslash and the `u`. -/
def getu4 (h i j k : UInt8) : Nat :=
  ((hexValue h * 16 + hexValue i) * 16 + hexValue j) * 16 + hexValue k

/-- `utf8.EncodeRune`. -/
def encodeRune (r : Nat) : List UInt8 :=
  String.utf8EncodeChar (if r.isValidChar then Char.ofNat r else runeError)

def simpleEscape (c : UInt8) : UInt8 :=
  if c = 98 then 8
  else if c = 102 then 12
  else if c = 110 then 10
  else if c = 114 then 13
  else if c = 116 then 9
  else c

def isHighSurrogate (r : Nat) : Bool :=
  55296 ≤ r && r < 56320

def isLowSurrogate (r : Nat) : Bool :=
  56320 ≤ r && r < 57344

/-- A high surrogate whose partner did not follow is the replacement character. -/
def lone : Option Nat -> List UInt8
  | none => []
  | some high => encodeRune high

/-- `unquoteBytes` behind a pending high surrogate. -/
def unquoteFrom : Option Nat -> List UInt8 -> List UInt8
  | pending, 92 :: 117 :: h :: i :: j :: k :: rest =>
      let r := getu4 h i j k
      match pending with
      | some high =>
          if isLowSurrogate r then
            encodeRune (65536 + (high - 55296) * 1024 + (r - 56320)) ++ unquoteFrom none rest
          else if isHighSurrogate r then encodeRune high ++ unquoteFrom (some r) rest
          else encodeRune high ++ encodeRune r ++ unquoteFrom none rest
      | none =>
          if isHighSurrogate r then unquoteFrom (some r) rest
          else encodeRune r ++ unquoteFrom none rest
  | pending, 92 :: c :: rest => lone pending ++ simpleEscape c :: unquoteFrom none rest
  | pending, b :: rest => lone pending ++ b :: unquoteFrom none rest
  | pending, [] => lone pending

/-- The string that a scanned literal denotes. -/
def unquote (literal : List UInt8) : String :=
  let bytes := unquoteFrom none literal
  String.ofList (decodeRunes bytes.length bytes)

theorem unquoteFrom_simple {c : UInt8} (h : c ≠ 117) (rest : List UInt8) :
    unquoteFrom none (92 :: c :: rest) = simpleEscape c :: unquoteFrom none rest := by
  rw [unquoteFrom]
  · rfl
  · intro _ _ _ _ _ heq
    exact absurd heq h

theorem unquoteFrom_plain {b : UInt8} (h : b ≠ 92) (rest : List UInt8) :
    unquoteFrom none (b :: rest) = b :: unquoteFrom none rest := by
  rw [unquoteFrom]
  · rfl
  · intro _ _ _ _ _ heq
    exact absurd heq h
  · intro _ _ heq
    exact absurd heq h

/-- A control character comes back from its hexadecimal digits. -/
theorem encodeRune_control {b : UInt8} (h : b.toNat < 32) :
    isHighSurrogate (getu4 48 48 (hexByte (b.toNat / 16)) (hexByte (b.toNat % 16))) = false ∧
      encodeRune (getu4 48 48 (hexByte (b.toNat / 16)) (hexByte (b.toNat % 16))) = [b] := by
  have hall : forall n : Fin 32,
      isHighSurrogate (getu4 48 48 (hexByte (n.val / 16)) (hexByte (n.val % 16))) = false ∧
        encodeRune (getu4 48 48 (hexByte (n.val / 16)) (hexByte (n.val % 16))) =
          [UInt8.ofNat n.val] := by
    decide
  have hbyte := hall ⟨b.toNat, h⟩
  rwa [UInt8.ofNat_toNat] at hbyte

theorem unquoteFrom_escapeByte (b : UInt8) (rest : List UInt8) :
    unquoteFrom none (escapeByte b ++ rest) = b :: unquoteFrom none rest := by
  unfold escapeByte
  split_ifs with hquote hslash hb hf hn hr ht hcontrol
  · rw [hquote]
    exact unquoteFrom_simple (by decide) rest
  · rw [hslash]
    exact unquoteFrom_simple (by decide) rest
  · rw [hb]
    exact unquoteFrom_simple (by decide) rest
  · rw [hf]
    exact unquoteFrom_simple (by decide) rest
  · rw [hn]
    exact unquoteFrom_simple (by decide) rest
  · rw [hr]
    exact unquoteFrom_simple (by decide) rest
  · rw [ht]
    exact unquoteFrom_simple (by decide) rest
  · rcases encodeRune_control hcontrol with ⟨hhigh, hrune⟩
    simp only [List.cons_append, List.nil_append]
    rw [unquoteFrom]
    simp only [hhigh, hrune]
    rfl
  · exact unquoteFrom_plain hslash rest

/-- The escapes of cJSON denote the bytes they stand for. -/
theorem unquoteFrom_escape (bytes : List UInt8) :
    unquoteFrom none (escape bytes) = bytes := by
  induction bytes with
  | nil =>
      rfl
  | cons b bytes ih =>
      rw [escape] at ih
      rw [escape, List.flatMap_cons, unquoteFrom_escapeByte, ih]

/-!
## Values
-/

def storeString (old : String) : Raw -> Option String
  | Raw.null => some old
  | Raw.str literal => some (unquote literal)
  | _ => none

/-- A field of an unsigned type. -/
def storeUint (bits old : Nat) : Raw -> Option Nat
  | Raw.null => some old
  | Raw.num literal => parseUint bits literal
  | _ => none

/-- A field of type `int` or `int64`. -/
def storeInt (old : Int) : Raw -> Option Int
  | Raw.null => some old
  | Raw.num literal => parseInt literal
  | _ => none

/-- A field of type `float64`, which is kept as its literal. -/
def storeFloat (old : List UInt8) : Raw -> Option (List UInt8)
  | Raw.null => some old
  | Raw.num literal => if isFloat64 literal then some literal else none
  | _ => none

/-- A slice, each of whose elements is decoded into the zero value of its type. -/
def storeSlice {alpha : Type} (element : Raw -> Option alpha) : Raw -> Option (List alpha)
  | Raw.null => some []
  | Raw.arr items => items.mapM element
  | _ => none

/-!
## Structs
-/

/-- A field of a struct type, with its tag. -/
structure Field (sigma : Type) where
  tag : String
  store : sigma -> Raw -> Option sigma

/-- The key of a member matches a tag up to case folding. -/
def matchesTag (key : List UInt8) (tag : String) : Bool :=
  (unquote key).toList.map foldChar = tag.toList.map foldChar

def storeMember {sigma : Type} :
    List (Field sigma) -> sigma -> List UInt8 × Raw -> Option sigma
  | [], b, _ => some b
  | f :: fs, b, m => if matchesTag m.1 f.tag then f.store b m.2 else storeMember fs b m

/-- A struct of these fields.  The first literal that its field does not take fails the
decoding: what `encoding/json` still stores after it is returned with an error. -/
def storeStruct {sigma : Type} (fields : List (Field sigma)) (b : sigma) :
    Raw -> Option sigma
  | Raw.null => some b
  | Raw.obj members => members.foldlM (storeMember fields) b
  | _ => none

/-!
## Keys of the agent
-/

/-- Lower-case letters and underscores. -/
def isPlainKey (k : String) : Bool :=
  k.toList.all fun c => (97 ≤ c.toNat && c.toNat ≤ 122) || c.toNat = 95

theorem toLower_of_not_upper {c : Char} (h : c.toNat < 65 ∨ 90 < c.toNat) :
    c.toLower = c := by
  have hnat : c.val.toNat = c.toNat := rfl
  have hnot : ¬ (c.val ≥ 65 ∧ c.val ≤ 90) := by
    simp only [ge_iff_le, UInt32.le_iff_toNat_le, hnat, UInt32.reduceToNat]
    omega
  exact dif_neg hnot

theorem isPlainKey_char {k : String} (h : isPlainKey k = true) {c : Char}
    (hc : c ∈ k.toList) : 0 < c.toNat ∧ c.toNat < 128 ∧ foldChar c = c := by
  have hplain := List.all_eq_true.mp h c hc
  simp only [Bool.or_eq_true, Bool.and_eq_true, decide_eq_true_eq] at hplain
  refine ⟨by omega, by omega, ?_⟩
  rw [foldChar, if_neg (by omega), if_neg (by omega)]
  exact toLower_of_not_upper (by omega)

theorem map_foldChar {k : String} (h : isPlainKey k = true) :
    k.toList.map foldChar = k.toList := by
  have hfold : forall c, c ∈ k.toList -> foldChar c = id c :=
    fun c hc => (isPlainKey_char h hc).right.right
  rw [List.map_congr_left hfold, List.map_id]

theorem unquote_key {k : String} (h : isPlainKey k = true) :
    unquote (escape (utf8 k)) = k := by
  have hascii : forall c, c ∈ k.toList -> 0 < c.toNat ∧ c.toNat < 128 := by
    intro c hc
    rcases isPlainKey_char h hc with ⟨hpos, hlt, _⟩
    exact ⟨hpos, hlt⟩
  rw [unquote, unquoteFrom_escape]
  rw [show decodeRunes (utf8 k).length (utf8 k) = k.toList from
    (decodeRunes_ascii hascii).right, String.ofList_toList]

/-- Such a key matches itself and no other tag of that kind. -/
theorem matchesTag_key {k t : String} (hk : isPlainKey k = true) (ht : isPlainKey t = true) :
    matchesTag (escape (utf8 k)) t = decide (k = t) := by
  rw [matchesTag, unquote_key hk, map_foldChar hk, map_foldChar ht]
  exact decide_eq_decide.mpr String.toList_inj

/-!
## Structs from printed objects
-/

/-- A member with a plain key goes to the field with this tag, if there is one. -/
def storeNamed {sigma : Type} : List (Field sigma) -> sigma -> Member -> Option sigma
  | [], b, _ => some b
  | f :: fs, b, m => if m.key = f.tag then f.store b m.value.raw else storeNamed fs b m

theorem storeMember_named {sigma : Type} {fields : List (Field sigma)}
    (htags : (fields.map Field.tag).all isPlainKey = true) (b : sigma) {m : Member}
    (hkey : isPlainKey m.key = true) :
    storeMember fields b m.raw = storeNamed fields b m := by
  induction fields with
  | nil =>
      rfl
  | cons f fs ih =>
      rw [List.map_cons, List.all_cons, Bool.and_eq_true] at htags
      rw [storeMember, storeNamed, ih htags.right, Member.raw,
        matchesTag_key hkey htags.left]
      simp only [decide_eq_true_eq]

/-- A printed object is decoded member by member. -/
theorem storeStruct_printed {sigma : Type} {fields : List (Field sigma)}
    (htags : (fields.map Field.tag).all isPlainKey = true) {members : List Member}
    (hkeys : (members.map Member.key).all isPlainKey = true) (b : sigma) :
    storeStruct fields b (Printed.object members).raw =
      members.foldlM (storeNamed fields) b := by
  show (members.map Member.raw).foldlM (storeMember fields) b = _
  induction members generalizing b with
  | nil =>
      rfl
  | cons m ms ih =>
      rw [List.map_cons, List.all_cons, Bool.and_eq_true] at hkeys
      rw [List.map_cons, List.foldlM_cons, List.foldlM_cons,
        storeMember_named htags b hkeys.left]
      congr
      funext b'
      exact ih hkeys.right b'

/-- A printed array whose elements are each refused or stored. -/
theorem storeSlice_printed {alpha beta : Type} {element : Raw -> Option beta}
    {print : alpha -> Printed} {stored : alpha -> beta} (refused : alpha -> Bool)
    (items : List alpha)
    (h : forall x, x ∈ items ->
      element (print x).raw = if refused x then none else some (stored x)) :
    storeSlice element (Printed.array (items.map print)).raw =
      if items.any refused then none else some (items.map stored) := by
  show ((items.map print).map Printed.raw).mapM element = _
  induction items with
  | nil =>
      rfl
  | cons x items ih =>
      have hhead := h x List.mem_cons_self
      have htail := ih fun y hy => h y (List.mem_cons_of_mem x hy)
      rw [List.map_cons, List.map_cons, List.mapM_cons, hhead, htail, List.any_cons]
      cases refused x with
      | true =>
          rfl
      | false =>
          cases items.any refused with
          | true =>
              rfl
          | false =>
              rfl

theorem storeSlice_stored {alpha beta : Type} {element : Raw -> Option beta}
    {print : alpha -> Printed} {stored : alpha -> beta}
    (h : forall x, element (print x).raw = some (stored x)) (items : List alpha) :
    storeSlice element (Printed.array (items.map print)).raw = some (items.map stored) := by
  have hnever : (items.any fun _ => false) = false := by simp
  rw [storeSlice_printed (fun _ => false) items fun x _ => h x, hnever]
  rfl

end Backend
end LeoOne
