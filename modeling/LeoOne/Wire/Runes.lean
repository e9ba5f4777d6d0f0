import Mathlib.Data.List.TakeWhile
import LeoOne.Wire.Json

/-!
# Strings from the agent

The agent writes the bytes of a C string into a JSON text as they are, apart from the
escapes, and `encoding/json` reads them with `utf8.DecodeRune`: a byte that does not
start a well-formed sequence becomes U+FFFD and is skipped alone.
-/

namespace LeoOne
namespace Wire

/-- `utf8.RuneError`. -/
def runeError : Char := Char.ofNat 65533

/-- A continuation byte. -/
def isTail (b : UInt8) : Bool :=
  128 ≤ b.toNat && b.toNat ≤ 191

/-- The range of the second byte after a first byte (`acceptRanges`). -/
def acceptsSecond (first : Nat) (b : UInt8) : Bool :=
  isTail b &&
    (if first = 224 then 160 ≤ b.toNat
    else if first = 237 then b.toNat ≤ 159
    else if first = 240 then 144 ≤ b.toNat
    else if first = 244 then b.toNat ≤ 143
    else true)

/-- The value of a sequence of two, three or four bytes, with the number of the bytes
after the first. -/
def multiByte (first : Nat) : List UInt8 -> Option (Nat × Nat)
  | [] => none
  | b :: rest =>
      if !acceptsSecond first b then none
      else if 194 ≤ first && first ≤ 223 then
        some ((first - 192) * 64 + (b.toNat - 128), 1)
      else
        match rest with
        | [] => none
        | b' :: rest' =>
            if !isTail b' then none
            else if 224 ≤ first && first ≤ 239 then
              some ((first - 224) * 4096 + (b.toNat - 128) * 64 + (b'.toNat - 128), 2)
            else
              match rest' with
              | [] => none
              | b'' :: _ =>
                  if isTail b'' && 240 ≤ first && first ≤ 244 then
                    some ((first - 240) * 262144 + (b.toNat - 128) * 4096 +
                      (b'.toNat - 128) * 64 + (b''.toNat - 128), 3)
                  else none

/-- `utf8.DecodeRune`, with the number of the bytes after the first. -/
def decodeRune (b : UInt8) (rest : List UInt8) : Char × Nat :=
  if b.toNat < 128 then (Char.ofNat b.toNat, 0)
  else
    match multiByte b.toNat rest with
    | none => (runeError, 0)
    | some (value, size) => (Char.ofNat value, size)

def decodeRunes : Nat -> List UInt8 -> List Char
  | 0, _ => []
  | _ + 1, [] => []
  | fuel + 1, b :: rest =>
      (decodeRune b rest).1 :: decodeRunes fuel (rest.drop (decodeRune b rest).2)

/-- The Go string that is read for a C string of the agent. -/
def goString (bytes : List UInt8) : String :=
  let cstr := bytes.takeWhile fun b => b ≠ 0
  String.ofList (decodeRunes cstr.length cstr)

/-!
## No NUL is read
-/

theorem toNat_ofNat_of_valid {n : Nat} (h : n.isValidChar) : (Char.ofNat n).toNat = n := by
  rw [Char.ofNat, dif_pos h]
  rfl

theorem isTail_iff {b : UInt8} : isTail b = true <-> 128 ≤ b.toNat ∧ b.toNat ≤ 191 := by
  rw [isTail, Bool.and_eq_true, decide_eq_true_eq, decide_eq_true_eq]

/-- The second byte excludes the overlong forms, the surrogates and what lies beyond
U+10FFFF. -/
theorem acceptsSecond_bounds {first : Nat} {b : UInt8} (h : acceptsSecond first b = true) :
    128 ≤ b.toNat ∧ b.toNat ≤ 191 ∧ (first = 224 -> 160 ≤ b.toNat) ∧
      (first = 237 -> b.toNat ≤ 159) ∧ (first = 240 -> 144 ≤ b.toNat) ∧
      (first = 244 -> b.toNat ≤ 143) := by
  rw [acceptsSecond, Bool.and_eq_true, isTail_iff] at h
  rcases h with ⟨⟨hlo, hhi⟩, hrange⟩
  refine ⟨hlo, hhi, ?_, ?_, ?_, ?_⟩ <;> intro heq <;> simpa [heq] using hrange

/-- A sequence of several bytes denotes a character other than NUL. -/
theorem multiByte_some {first value size : Nat} {rest : List UInt8}
    (h : multiByte first rest = some (value, size)) : value.isValidChar ∧ value ≠ 0 := by
  unfold multiByte at h
  split at h
  · cases h
  · rename_i b rest
    split at h
    · cases h
    · rename_i hsecond
      have haccepts : acceptsSecond first b = true := by simpa using hsecond
      have hb := acceptsSecond_bounds haccepts
      split at h
      · rename_i htwo
        simp only [Bool.and_eq_true, decide_eq_true_eq] at htwo
        rw [Option.some.injEq, Prod.mk.injEq] at h
        unfold Nat.isValidChar
        omega
      · split at h
        · cases h
        · rename_i b' rest'
          split at h
          · cases h
          · rename_i hthird
            have hb' : 128 ≤ b'.toNat ∧ b'.toNat ≤ 191 :=
              isTail_iff.mp (by simpa using hthird)
            split at h
            · rename_i hthree
              simp only [Bool.and_eq_true, decide_eq_true_eq] at hthree
              rw [Option.some.injEq, Prod.mk.injEq] at h
              unfold Nat.isValidChar
              omega
            · split at h
              · cases h
              · rename_i b'' rest''
                split at h
                · rename_i hfour
                  simp only [Bool.and_eq_true, decide_eq_true_eq, isTail_iff] at hfour
                  rw [Option.some.injEq, Prod.mk.injEq] at h
                  unfold Nat.isValidChar
                  omega
                · cases h

theorem decodeRune_ne {b : UInt8} {rest : List UInt8} (h : b ≠ 0) :
    (decodeRune b rest).1 ≠ Char.ofNat 0 := by
  have hzero : b.toNat ≠ 0 := fun heq => h (UInt8.toNat_inj.mp heq)
  intro heq
  have hnat := congrArg Char.toNat heq
  rw [toNat_ofNat_of_valid (by decide)] at hnat
  unfold decodeRune at hnat
  split at hnat
  · rename_i hascii
    rw [toNat_ofNat_of_valid (Or.inl (by omega))] at hnat
    exact hzero hnat
  · split at hnat
    · exact absurd hnat (by decide)
    · rename_i value size hvalue
      rcases multiByte_some hvalue with ⟨hvalid, hne⟩
      rw [toNat_ofNat_of_valid hvalid] at hnat
      exact hne hnat

theorem decodeRunes_no_nul {fuel : Nat} {bytes : List UInt8}
    (h : forall b, b ∈ bytes -> b ≠ 0) : Char.ofNat 0 ∉ decodeRunes fuel bytes := by
  induction fuel generalizing bytes with
  | zero =>
      exact List.not_mem_nil
  | succ fuel ih =>
      cases bytes with
      | nil =>
          exact List.not_mem_nil
      | cons b rest =>
          intro hmem
          rcases List.mem_cons.mp hmem with heq | htail
          · exact decodeRune_ne (h b List.mem_cons_self) heq.symm
          · apply ih ?_ htail
            intro b' hb'
            exact h b' (List.mem_cons_of_mem b (List.mem_of_mem_drop hb'))

/-- What is read for a C string fits a `TEXT` column. -/
theorem goString_no_nul (bytes : List UInt8) : Char.ofNat 0 ∉ (goString bytes).toList := by
  rw [goString, String.toList_ofList]
  apply decodeRunes_no_nul
  intro b hb
  simpa using List.mem_takeWhile_imp hb

/-!
## Plain text is read as it is
-/

/-- A character of one byte other than NUL. -/
theorem utf8EncodeChar_ascii {c : Char} (hpos : 0 < c.toNat) (hlt : c.toNat < 128) :
    exists b : UInt8, String.utf8EncodeChar c = [b] ∧ b ≠ 0 ∧
      forall rest, decodeRune b rest = (c, 0) := by
  have hnat : c.val.toNat = c.toNat := rfl
  have hsize : c.utf8Size = 1 := by
    rw [Char.utf8Size_eq_one_iff, UInt32.le_iff_toNat_le, hnat]
    exact Nat.le_of_lt_succ hlt
  have hbyte : c.val.toUInt8.toNat = c.toNat := by
    rw [UInt32.toNat_toUInt8, hnat, Nat.mod_eq_of_lt (by omega)]
  refine ⟨c.val.toUInt8, String.utf8EncodeChar_eq_singleton hsize, ?_, ?_⟩
  · intro hzero
    rw [hzero] at hbyte
    exact absurd hbyte (Nat.ne_of_lt hpos)
  · intro rest
    rw [decodeRune, hbyte, if_pos hlt, Char.ofNat_toNat]

theorem decodeRunes_ascii {cs : List Char}
    (h : forall c, c ∈ cs -> 0 < c.toNat ∧ c.toNat < 128) :
    (forall b, b ∈ cs.flatMap String.utf8EncodeChar -> b ≠ 0) ∧
      decodeRunes (cs.flatMap String.utf8EncodeChar).length
        (cs.flatMap String.utf8EncodeChar) = cs := by
  induction cs with
  | nil =>
      exact ⟨nofun, rfl⟩
  | cons c cs ih =>
      rcases h c List.mem_cons_self with ⟨hpos, hlt⟩
      rcases utf8EncodeChar_ascii hpos hlt with ⟨b, hb, hne, hdecode⟩
      rcases ih fun c' hc' => h c' (List.mem_cons_of_mem c hc') with ⟨hbytes, hrest⟩
      rw [List.flatMap_cons, hb]
      constructor
      · intro b' hb'
        rcases List.mem_cons.mp hb' with rfl | hmem
        · exact hne
        · exact hbytes b' hmem
      · show decodeRunes (_ + 1) (b :: _) = c :: cs
        rw [decodeRunes, hdecode]
        exact congrArg (c :: ·) hrest

/-- An ASCII text without NUL comes back as it was. -/
theorem goString_ascii {s : String}
    (h : forall c, c ∈ s.toList -> 0 < c.toNat ∧ c.toNat < 128) : goString (utf8 s) = s := by
  rcases decodeRunes_ascii h with ⟨hbytes, hdecode⟩
  have hwhole : (utf8 s).takeWhile (fun b => b ≠ 0) = utf8 s := by
    apply List.takeWhile_eq_self_iff.mpr
    intro b hb
    exact decide_eq_true (hbytes b hb)
  rw [goString]
  simp only [hwhole]
  rw [show decodeRunes (utf8 s).length (utf8 s) = s.toList from hdecode,
    String.ofList_toList]

end Wire
end LeoOne
