import Mathlib.Data.List.Perm.Subperm
import LeoOne.Foundation.Base64
import LeoOne.Wire.Numbers

/-!
# Password hashes

`hashArgon2id`, `parseArgon2idHash` and `verifyArgon2id`.  Texts are bytes.  The parameters
are read in any order and narrowed without a check, and a parameter that is missing is 0.
-/

namespace LeoOne
namespace Accounts

open Foundation
open Wire

/-!
## The functions
-/

structure Argon2Params where
  memory : Nat
  time : Nat
  threads : Nat
  keyLen : Nat
  deriving DecidableEq

/-- Why `parseArgon2idHash` fails. -/
inductive HashError where
  | format
  | algorithm (name : List UInt8)
  | parameters
  | value
  | salt
  | hash
  deriving DecidableEq

/-- The format of `hashArgon2id`. -/
def formatArgon2id (memory time threads : Nat) (salt hash : List UInt8) : List UInt8 :=
  utf8 "$argon2id$v=19$m=" ++ decimal memory ++ utf8 ",t=" ++ decimal time ++ utf8 ",p=" ++
    decimal threads ++ utf8 "$" ++ Base64.encode salt ++ utf8 "$" ++ Base64.encode hash

/-- `hashArgon2id`, with the salt that is drawn. -/
def hashArgon2id (idKey : List UInt8 -> List UInt8 -> Argon2Params -> List UInt8)
    (salt password : List UInt8) : List UInt8 :=
  formatArgon2id 65536 3 2 salt
    (idKey password salt { memory := 65536, time := 3, threads := 2, keyLen := 32 })

/-- `strconv.ParseInt(text, 10, 64)`, with the sign `+` that no JSON number has. -/
def parseInt64 (text : List UInt8) : Option Int :=
  match text with
  | 43 :: digits => (parseUint 63 digits).map Int.ofNat
  | _ => parseInt text

/-- `strings.SplitN(param, "=", 2)`, when it gives two parts. -/
def keyValue (param : List UInt8) : Option (List UInt8 × List UInt8) :=
  match param.dropWhile fun b => b ≠ 61 with
  | [] => none
  | _ :: value => some (param.takeWhile (fun b => b ≠ 61), value)

/-- The variables `memory`, `t` and `threads` of the loop. -/
structure ParsedParams where
  memory : Int
  time : Int
  threads : Int
  deriving DecidableEq

/-- One iteration of the loop; `none` is an error. -/
def ParsedParams.read (n : ParsedParams) (param : List UInt8) : Option ParsedParams :=
  match keyValue param with
  | none => some n
  | some (key, value) =>
      if key = utf8 "m" then (parseInt64 value).map fun v => { n with memory := v }
      else if key = utf8 "t" then (parseInt64 value).map fun v => { n with time := v }
      else if key = utf8 "p" then (parseInt64 value).map fun v => { n with threads := v }
      else some n

/-- The conversion of an `int64` to an unsigned type. -/
def unsigned (bits : Nat) (v : Int) : Nat :=
  (v % 2 ^ bits).toNat

/-- `parseArgon2idHash`. -/
def parseArgon2idHash (encodedHash : List UInt8) :
    Except HashError (Argon2Params × List UInt8 × List UInt8) :=
  match encodedHash.splitOn 36 with
  | [_, algorithm, _, parameters, saltText, hashText] =>
      if algorithm ≠ utf8 "argon2id" then Except.error (HashError.algorithm algorithm)
      else
        let params := parameters.splitOn 44
        if params.length ≠ 3 then Except.error HashError.parameters
        else
          match params.foldlM ParsedParams.read { memory := 0, time := 0, threads := 0 } with
          | none => Except.error HashError.value
          | some n =>
              match Base64.decode saltText, Base64.decode hashText with
              | none, _ => Except.error HashError.salt
              | some _, none => Except.error HashError.hash
              | some salt, some hash =>
                  Except.ok
                    ({ memory := unsigned 32 n.memory
                       time := unsigned 32 n.time
                       threads := unsigned 8 n.threads
                       keyLen := hash.length % 2 ^ 32 },
                      salt, hash)
  | _ => Except.error HashError.format

/-- The parameters that `argon2.IDKey` computes a key with; it panics for any others. -/
def Argon2Params.Acceptable (p : Argon2Params) : Prop :=
  1 ≤ p.time ∧ 1 ≤ p.threads ∧ 1 ≤ p.keyLen

instance (p : Argon2Params) : Decidable p.Acceptable :=
  inferInstanceAs (Decidable (_ ∧ _ ∧ _))

/-- `verifyArgon2id`; `none` is a panic.  `idKey` is `argon2.IDKey`. -/
def verifyArgon2id (idKey : List UInt8 -> List UInt8 -> Argon2Params -> List UInt8)
    (password encodedHash : List UInt8) : Option Bool :=
  match parseArgon2idHash encodedHash with
  | Except.error _ => some false
  | Except.ok (p, salt, hash) =>
      if p.Acceptable then some (decide (hash = idKey password salt p)) else none

/-!
## Reading a hash back
-/

theorem parseInt64_decimal {n : Nat} (h : n < 2 ^ 63) :
    parseInt64 (decimal n) = some (n : Int) := by
  unfold parseInt64
  split
  · rename_i digits hhead
    have hplus : (43 : UInt8) ∈ decimal n := by
      rw [hhead]
      exact List.mem_cons_self
    cases isDigit_of_mem_decimal hplus
  · rw [parseInt_of_isUnsigned (isUnsigned_decimal n), parseUint_decimal h]
    rfl

theorem keyValue_append {key value : List UInt8} (h : (61 : UInt8) ∉ key) :
    keyValue (key ++ 61 :: value) = some (key, value) := by
  have hkey : forall b, b ∈ key -> decide (b ≠ 61) = true := by
    intro b hb
    rw [decide_eq_true_eq]
    rintro rfl
    exact h hb
  rw [keyValue, List.dropWhile_append_of_pos hkey, List.takeWhile_append_of_pos hkey]
  simp

/-- A digit is none of the separators. -/
theorem not_mem_decimal {b : UInt8} (h : isDigit b = false) (n : Nat) : b ∉ decimal n := by
  intro hb
  cases h.symm.trans (isDigit_of_mem_decimal hb)

/-- The parameters of the format. -/
def formatParams (memory time threads : Nat) : List UInt8 :=
  utf8 "m=" ++ decimal memory ++ 44 :: (utf8 "t=" ++ decimal time ++ 44 ::
    (utf8 "p=" ++ decimal threads))

theorem splitOn_formatParams (memory time threads : Nat) :
    (formatParams memory time threads).splitOn 44 =
      [utf8 "m=" ++ decimal memory, utf8 "t=" ++ decimal time,
        utf8 "p=" ++ decimal threads] := by
  have hnot : forall (key : String) (n : Nat), (44 : UInt8) ∉ utf8 key ->
      (44 : UInt8) ∉ utf8 key ++ decimal n := by
    intro key n hkey hmem
    rcases List.mem_append.mp hmem with hmem | hmem
    · exact hkey hmem
    · exact not_mem_decimal (by decide) n hmem
  rw [formatParams, List.splitOn_append_cons_self_of_not_mem (hnot "m=" memory (by decide)),
    List.splitOn_append_cons_self_of_not_mem (hnot "t=" time (by decide)),
    List.splitOn_eq_singleton (hnot "p=" threads (by decide))]

theorem splitOn_formatArgon2id (memory time threads : Nat) (salt hash : List UInt8) :
    (formatArgon2id memory time threads salt hash).splitOn 36 =
      [[], utf8 "argon2id", utf8 "v=19", formatParams memory time threads, Base64.encode salt,
        Base64.encode hash] := by
  have hformat : formatArgon2id memory time threads salt hash =
      [] ++ 36 :: (utf8 "argon2id" ++ 36 :: (utf8 "v=19" ++ 36 ::
        (formatParams memory time threads ++ 36 :: (Base64.encode salt ++ 36 ::
          Base64.encode hash)))) := by
    have hhead : utf8 "$argon2id$v=19$m=" =
        36 :: (utf8 "argon2id" ++ 36 :: (utf8 "v=19" ++ 36 :: utf8 "m=")) := by decide
    have htime : utf8 ",t=" = 44 :: utf8 "t=" := by decide
    have hthreads : utf8 ",p=" = 44 :: utf8 "p=" := by decide
    have hdollar : utf8 "$" = [36] := by decide
    simp only [formatArgon2id, formatParams, hhead, htime, hthreads, hdollar, List.append_assoc,
      List.cons_append, List.nil_append]
  have hparams : (36 : UInt8) ∉ formatParams memory time threads := by
    have hdigit : isDigit 36 = false := by decide
    simp only [formatParams, List.mem_append, List.mem_cons, not_mem_decimal hdigit, or_false]
    decide
  have hvalue : Base64.value 36 = none := by decide
  rw [hformat, List.splitOn_append_cons_self_of_not_mem List.not_mem_nil,
    List.splitOn_append_cons_self_of_not_mem (by decide),
    List.splitOn_append_cons_self_of_not_mem (by decide),
    List.splitOn_append_cons_self_of_not_mem hparams,
    List.splitOn_append_cons_self_of_not_mem (Base64.not_mem_encode hvalue salt),
    List.splitOn_eq_singleton (Base64.not_mem_encode hvalue hash)]

/-- The parameters that are written are those that are read. -/
theorem foldlM_formatParams {memory time threads : Nat} (hmemory : memory < 2 ^ 63)
    (htime : time < 2 ^ 63) (hthreads : threads < 2 ^ 63) :
    [utf8 "m=" ++ decimal memory, utf8 "t=" ++ decimal time, utf8 "p=" ++ decimal threads].foldlM
        ParsedParams.read { memory := 0, time := 0, threads := 0 } =
      some { memory := memory, time := time, threads := threads } := by
  have hm : keyValue (utf8 "m=" ++ decimal memory) = some (utf8 "m", decimal memory) :=
    keyValue_append (show (61 : UInt8) ∉ utf8 "m" by decide)
  have ht : keyValue (utf8 "t=" ++ decimal time) = some (utf8 "t", decimal time) :=
    keyValue_append (show (61 : UInt8) ∉ utf8 "t" by decide)
  have hp : keyValue (utf8 "p=" ++ decimal threads) = some (utf8 "p", decimal threads) :=
    keyValue_append (show (61 : UInt8) ∉ utf8 "p" by decide)
  have htm : utf8 "t" ≠ utf8 "m" := by decide
  have hpm : utf8 "p" ≠ utf8 "m" := by decide
  have hpt : utf8 "p" ≠ utf8 "t" := by decide
  simp only [List.foldlM_cons, List.foldlM_nil, ParsedParams.read, hm, ht, hp, htm, hpm, hpt,
    if_true, if_false, parseInt64_decimal hmemory, parseInt64_decimal htime,
    parseInt64_decimal hthreads, Option.map_some, Option.bind_eq_bind, Option.bind_some]
  rfl

theorem unsigned_natCast {bits n : Nat} (h : n < 2 ^ bits) : unsigned bits n = n := by
  have hlt : (n : Int) < 2 ^ bits := by exact_mod_cast h
  rw [unsigned, Int.emod_eq_of_lt (Int.natCast_nonneg n) hlt, Int.toNat_natCast]

/-- A hash in the format is read back as what it was made of. -/
theorem parse_format {memory time threads : Nat} (hmemory : memory < 2 ^ 32)
    (htime : time < 2 ^ 32) (hthreads : threads < 2 ^ 8) (salt hash : List UInt8) :
    parseArgon2idHash (formatArgon2id memory time threads salt hash) =
      Except.ok
        ({ memory := memory, time := time, threads := threads,
           keyLen := hash.length % 2 ^ 32 }, salt, hash) := by
  have hread := foldlM_formatParams (show memory < 2 ^ 63 by omega) (show time < 2 ^ 63 by omega)
    (show threads < 2 ^ 63 by omega)
  simp only [parseArgon2idHash, splitOn_formatArgon2id, splitOn_formatParams, ne_eq,
    not_true_eq_false, if_false, hread, Base64.decode_encode, unsigned_natCast hmemory,
    unsigned_natCast htime, unsigned_natCast hthreads, List.length_cons, List.length_nil]

/-!
## What is accepted
-/

/-- The number that the parameters write for a key. -/
def Writes (params : List (List UInt8)) (key : List UInt8) (v : Int) : Prop :=
  exists param value, param ∈ params ∧ keyValue param = some (key, value) ∧
    parseInt64 value = some v

/-- The parameters of a hash. -/
def hashParams (encodedHash : List UInt8) : List (List UInt8) :=
  ((encodedHash.splitOn 36).getD 3 []).splitOn 44

/-- The parameters are the numbers that are written, and `argon2.IDKey` takes them. -/
structure ParamsSound (encodedHash : List UInt8) (p : Argon2Params) : Prop where
  memory : Writes (hashParams encodedHash) (utf8 "m") p.memory
  time : Writes (hashParams encodedHash) (utf8 "t") p.time
  threads : Writes (hashParams encodedHash) (utf8 "p") p.threads
  acceptable : p.Acceptable

/-- The value of a parameter that is looked at is a number. -/
def IsRead (param : List UInt8) : Prop :=
  forall key value, keyValue param = some (key, value) ->
    key = utf8 "m" ∨ key = utf8 "t" ∨ key = utf8 "p" -> (parseInt64 value).isSome = true

/-- The text has the form that is looked for: six fields, the second of them `argon2id`,
three parameters with numbers, and two texts in base64. -/
structure HasForm (encodedHash salt hash : List UInt8) : Prop where
  fields : exists first version parameters saltText hashText,
    encodedHash.splitOn 36 =
      [first, utf8 "argon2id", version, parameters, saltText, hashText] ∧
    Base64.decode saltText = some salt ∧ Base64.decode hashText = some hash
  three : (hashParams encodedHash).length = 3
  numbers : forall param, param ∈ hashParams encodedHash -> IsRead param

/-- The three numbers are there, each in the range of its type and positive where it must
be, and the hash is not empty. -/
structure InRange (params : List (List UInt8)) (hash : List UInt8) : Prop where
  memory : exists v, Writes params (utf8 "m") v ∧ 0 ≤ v ∧ v < 2 ^ 32
  time : exists v, Writes params (utf8 "t") v ∧ 1 ≤ v ∧ v < 2 ^ 32
  threads : exists v, Writes params (utf8 "p") v ∧ 1 ≤ v ∧ v < 2 ^ 8
  hash : hash.length % 2 ^ 32 ≠ 0

/-- A variable of the loop is set by the parameters with its key, and by no others. -/
def Follows (field : ParsedParams -> Int) (key : List UInt8) : Prop :=
  forall n n' param, ParsedParams.read n param = some n' ->
    (exists value, keyValue param = some (key, value) ∧ parseInt64 value = some (field n')) ∨
    (field n' = field n ∧ forall value, keyValue param ≠ some (key, value))

theorem utf8_keys : utf8 "t" ≠ utf8 "m" ∧ utf8 "p" ≠ utf8 "m" ∧ utf8 "p" ≠ utf8 "t" := by
  decide

/-- What one iteration does. -/
theorem read_cases {n n' : ParsedParams} {param : List UInt8} (h : n.read param = some n') :
    (exists value v, keyValue param = some (utf8 "m", value) ∧ parseInt64 value = some v ∧
      n' = { n with memory := v }) ∨
    (exists value v, keyValue param = some (utf8 "t", value) ∧ parseInt64 value = some v ∧
      n' = { n with time := v }) ∨
    (exists value v, keyValue param = some (utf8 "p", value) ∧ parseInt64 value = some v ∧
      n' = { n with threads := v }) ∨
    (n' = n ∧ forall key value, keyValue param = some (key, value) ->
      key ≠ utf8 "m" ∧ key ≠ utf8 "t" ∧ key ≠ utf8 "p") := by
  cases hparam : keyValue param with
  | none =>
      simp only [ParsedParams.read, hparam, Option.some.injEq] at h
      refine Or.inr (Or.inr (Or.inr ⟨h.symm, fun key value hsome => ?_⟩))
      cases hsome
  | some pair =>
      rcases pair with ⟨key, value⟩
      simp only [ParsedParams.read, hparam] at h
      split at h
      · rename_i hkey
        rcases Option.map_eq_some_iff.mp h with ⟨v, hv, hn'⟩
        exact Or.inl ⟨value, v, by rw [hkey], hv, hn'.symm⟩
      · rename_i hm
        split at h
        · rename_i hkey
          rcases Option.map_eq_some_iff.mp h with ⟨v, hv, hn'⟩
          exact Or.inr (Or.inl ⟨value, v, by rw [hkey], hv, hn'.symm⟩)
        · rename_i ht
          split at h
          · rename_i hkey
            rcases Option.map_eq_some_iff.mp h with ⟨v, hv, hn'⟩
            exact Or.inr (Or.inr (Or.inl ⟨value, v, by rw [hkey], hv, hn'.symm⟩))
          · rename_i hp
            cases h
            refine Or.inr (Or.inr (Or.inr ⟨rfl, fun key' value' hsome => ?_⟩))
            cases hsome
            exact ⟨hm, ht, hp⟩

/-- A parameter has one key. -/
theorem not_keyed {param key value other : List UInt8}
    (hkey : keyValue param = some (key, value)) (hne : key ≠ other) :
    forall value', keyValue param ≠ some (other, value') := by
  intro value' hsome
  rw [hkey, Option.some.injEq, Prod.mk.injEq] at hsome
  exact hne hsome.left

theorem follows_memory : Follows ParsedParams.memory (utf8 "m") := by
  intro n n' param h
  rcases utf8_keys with ⟨htm, hpm, hpt⟩
  rcases read_cases h with ⟨value, v, hkey, hv, rfl⟩ | ⟨value, v, hkey, hv, rfl⟩ |
    ⟨value, v, hkey, hv, rfl⟩ | ⟨rfl, hother⟩
  · exact Or.inl ⟨value, hkey, hv⟩
  · exact Or.inr ⟨rfl, not_keyed hkey htm⟩
  · exact Or.inr ⟨rfl, not_keyed hkey hpm⟩
  · exact Or.inr ⟨rfl, fun value' hsome => (hother _ value' hsome).left rfl⟩

theorem follows_time : Follows ParsedParams.time (utf8 "t") := by
  intro n n' param h
  rcases utf8_keys with ⟨htm, hpm, hpt⟩
  rcases read_cases h with ⟨value, v, hkey, hv, rfl⟩ | ⟨value, v, hkey, hv, rfl⟩ |
    ⟨value, v, hkey, hv, rfl⟩ | ⟨rfl, hother⟩
  · exact Or.inr ⟨rfl, not_keyed hkey htm.symm⟩
  · exact Or.inl ⟨value, hkey, hv⟩
  · exact Or.inr ⟨rfl, not_keyed hkey hpt⟩
  · exact Or.inr ⟨rfl, fun value' hsome => (hother _ value' hsome).right.left rfl⟩

theorem follows_threads : Follows ParsedParams.threads (utf8 "p") := by
  intro n n' param h
  rcases utf8_keys with ⟨htm, hpm, hpt⟩
  rcases read_cases h with ⟨value, v, hkey, hv, rfl⟩ | ⟨value, v, hkey, hv, rfl⟩ |
    ⟨value, v, hkey, hv, rfl⟩ | ⟨rfl, hother⟩
  · exact Or.inr ⟨rfl, not_keyed hkey hpm.symm⟩
  · exact Or.inr ⟨rfl, not_keyed hkey hpt.symm⟩
  · exact Or.inl ⟨value, hkey, hv⟩
  · exact Or.inr ⟨rfl, fun value' hsome => (hother _ value' hsome).right.right rfl⟩

/-- After the loop, a variable is the number of a parameter with its key, if there is one. -/
theorem Follows.fold {field : ParsedParams -> Int} {key : List UInt8} (h : Follows field key)
    {params : List (List UInt8)} {n n' : ParsedParams}
    (hfold : params.foldlM ParsedParams.read n = some n') :
    Writes params key (field n') ∨
      (field n' = field n ∧
        forall param, param ∈ params -> forall value, keyValue param ≠ some (key, value)) := by
  induction params generalizing n with
  | nil =>
      cases hfold
      exact Or.inr ⟨rfl, fun param hparam => absurd hparam List.not_mem_nil⟩
  | cons param params ih =>
      rw [List.foldlM_cons, Option.bind_eq_bind, Option.bind_eq_some_iff] at hfold
      rcases hfold with ⟨r, hread, hrest⟩
      rcases ih hrest with ⟨param', value, hmem, hvalue, hparse⟩ | ⟨hsame, hnone⟩
      · exact Or.inl ⟨param', value, List.mem_cons_of_mem param hmem, hvalue, hparse⟩
      · rcases h n r param hread with ⟨value, hvalue, hparse⟩ | ⟨hkept, hother⟩
        · refine Or.inl ⟨param, value, List.mem_cons_self, hvalue, ?_⟩
          rw [hsame]
          exact hparse
        · refine Or.inr ⟨hsame.trans hkept, ?_⟩
          rw [List.forall_mem_cons]
          exact ⟨hother, hnone⟩

/-- A variable of the loop that has a parameter is the number of one. -/
theorem Follows.written {field : ParsedParams -> Int} {key : List UInt8}
    (h : Follows field key) {params : List (List UInt8)} {n n' : ParsedParams}
    (hfold : params.foldlM ParsedParams.read n = some n') {v : Int}
    (hwrites : Writes params key v) : Writes params key (field n') := by
  rcases h.fold hfold with hwritten | ⟨_, hnone⟩
  · exact hwritten
  · rcases hwrites with ⟨param, value, hparam, hvalue, _⟩
    exact absurd hvalue (hnone param hparam value)

/-- Among three parameters with three keys, each key has one number. -/
theorem writes_unique {params : List (List UInt8)} (hlength : params.length = 3)
    {key₁ key₂ key₃ : List UInt8} (h₁₂ : key₁ ≠ key₂) (h₁₃ : key₁ ≠ key₃) (h₂₃ : key₂ ≠ key₃)
    {v v' w u : Int} (hv : Writes params key₁ v) (hv' : Writes params key₁ v')
    (hw : Writes params key₂ w) (hu : Writes params key₃ u) : v = v' := by
  rcases hv with ⟨param, value, hparam, hvalue, hparse⟩
  rcases hv' with ⟨param', value', hparam', hvalue', hparse'⟩
  rcases hw with ⟨param₂, value₂, hparam₂, hvalue₂, _⟩
  rcases hu with ⟨param₃, value₃, hparam₃, hvalue₃, _⟩
  have hother : forall {p q : List UInt8} {key key' value value' : List UInt8},
      keyValue p = some (key, value) -> keyValue q = some (key', value') -> key ≠ key' ->
      p ≠ q := by
    rintro p q key key' value value' hp hq hne rfl
    rw [hp, Option.some.injEq, Prod.mk.injEq] at hq
    exact hne hq.left
  by_cases hsame : param = param'
  · subst hsame
    rw [hvalue, Option.some.injEq, Prod.mk.injEq] at hvalue'
    rw [hvalue'.right, hparse'] at hparse
    exact (Option.some.inj hparse).symm
  · -- four different parameters do not fit
    have hnodup : [param, param', param₂, param₃].Nodup := by
      simp only [List.nodup_cons, List.mem_cons, List.not_mem_nil, or_false, not_or,
        not_false_eq_true, List.nodup_nil, and_true]
      exact ⟨⟨hsame, hother hvalue hvalue₂ h₁₂, hother hvalue hvalue₃ h₁₃⟩,
        ⟨hother hvalue' hvalue₂ h₁₂, hother hvalue' hvalue₃ h₁₃⟩, hother hvalue₂ hvalue₃ h₂₃⟩
    have hsubset : [param, param', param₂, param₃] ⊆ params := by
      intro p hp
      simp only [List.mem_cons, List.not_mem_nil, or_false] at hp
      rcases hp with rfl | rfl | rfl | rfl
      · exact hparam
      · exact hparam'
      · exact hparam₂
      · exact hparam₃
    have hle := (List.subperm_of_subset hnodup hsubset).length_le
    rw [hlength] at hle
    exact absurd hle (Nat.not_succ_le_self 3)

theorem read_isSome_iff (n : ParsedParams) (param : List UInt8) :
    (n.read param).isSome = true <-> IsRead param := by
  unfold IsRead
  cases hparam : keyValue param with
  | none =>
      simp [ParsedParams.read, hparam]
  | some pair =>
      rcases pair with ⟨key, value⟩
      simp only [ParsedParams.read, hparam, Option.some.injEq, Prod.mk.injEq, and_imp]
      have hsome : (forall key' value', key = key' -> value = value' ->
          key' = utf8 "m" ∨ key' = utf8 "t" ∨ key' = utf8 "p" ->
          (parseInt64 value').isSome = true) <->
          (key = utf8 "m" ∨ key = utf8 "t" ∨ key = utf8 "p" ->
            (parseInt64 value).isSome = true) :=
        ⟨fun h => h key value rfl rfl, by rintro h _ _ rfl rfl; exact h⟩
      rw [hsome]
      by_cases hm : key = utf8 "m"
      · simp [hm]
      · by_cases ht : key = utf8 "t"
        · simp [ht, utf8_keys.left]
        · by_cases hp : key = utf8 "p"
          · simp [hp, utf8_keys.right]
          · simp [hm, ht, hp]

theorem fold_isSome_iff (params : List (List UInt8)) (n : ParsedParams) :
    (params.foldlM ParsedParams.read n).isSome = true <->
      forall param, param ∈ params -> IsRead param := by
  induction params generalizing n with
  | nil =>
      exact ⟨fun _ param hparam => absurd hparam List.not_mem_nil, fun _ => rfl⟩
  | cons param params ih =>
      rw [List.foldlM_cons, List.forall_mem_cons, ← read_isSome_iff n param]
      cases hread : n.read param with
      | none =>
          simp
      | some r =>
          rw [Option.bind_eq_bind, Option.bind_some, ih]
          simp

/-- What is accepted, and what is made of it. -/
theorem parse_ok_iff {encodedHash salt hash : List UInt8} {p : Argon2Params} :
    parseArgon2idHash encodedHash = Except.ok (p, salt, hash) <->
      HasForm encodedHash salt hash ∧ exists n,
        (hashParams encodedHash).foldlM ParsedParams.read
          { memory := 0, time := 0, threads := 0 } = some n ∧
        p = { memory := unsigned 32 n.memory, time := unsigned 32 n.time,
              threads := unsigned 8 n.threads, keyLen := hash.length % 2 ^ 32 } := by
  constructor
  · intro h
    unfold parseArgon2idHash at h
    split at h
    · rename_i first algorithm version parameters saltText hashText hsplit
      have hparams : hashParams encodedHash = parameters.splitOn 44 := by
        rw [hashParams, hsplit]
        rfl
      split at h
      · cases h
      · rename_i halgorithm
        rw [not_not] at halgorithm
        subst halgorithm
        simp only at h
        split at h
        · cases h
        · rename_i hthree
          rw [not_not, ← hparams] at hthree
          split at h
          · cases h
          · rename_i n hfold
            rw [← hparams] at hfold
            split at h
            · cases h
            · cases h
            · rename_i hsalt hhash
              cases h
              have hnumbers := (fold_isSome_iff _ _).mp (Option.isSome_iff_exists.mpr ⟨n, hfold⟩)
              exact ⟨⟨⟨_, _, _, _, _, hsplit, hsalt, hhash⟩, hthree, hnumbers⟩, n, hfold, rfl⟩
    · cases h
  · rintro ⟨⟨⟨first, version, parameters, saltText, hashText, hsplit, hsalt, hhash⟩, hthree, _⟩,
      n, hfold, rfl⟩
    have hparams : hashParams encodedHash = parameters.splitOn 44 := by
      rw [hashParams, hsplit]
      rfl
    rw [hparams] at hthree hfold
    simp only [parseArgon2idHash, hsplit, hthree, hfold, hsalt, hhash, ne_eq,
      not_true_eq_false, if_false]

theorem unsigned_eq {bits : Nat} {v : Int} (hlow : 0 ≤ v) (hhigh : v < 2 ^ bits) :
    (unsigned bits v : Int) = v := by
  rw [unsigned, Int.emod_eq_of_lt hlow hhigh, Int.toNat_of_nonneg hlow]

theorem unsigned_lt (bits : Nat) (v : Int) : (unsigned bits v : Int) < 2 ^ bits := by
  have hpos : (0 : Int) < 2 ^ bits := Int.pow_pos (by decide)
  rw [unsigned, Int.toNat_of_nonneg (Int.emod_nonneg v (by omega))]
  exact Int.emod_lt_of_pos v hpos

/-- The parameters that are accepted are sound exactly if the numbers are in range. -/
theorem paramsSound_iff {encodedHash salt hash : List UInt8} {p : Argon2Params}
    (h : parseArgon2idHash encodedHash = Except.ok (p, salt, hash)) :
    ParamsSound encodedHash p <-> InRange (hashParams encodedHash) hash := by
  rcases parse_ok_iff.mp h with ⟨hform, n, hfold, rfl⟩
  rcases utf8_keys with ⟨htm, hpm, hpt⟩
  constructor
  · rintro ⟨hmemory, htime, hthreads, hacceptable⟩
    rcases hacceptable with ⟨hone, hone', hkey⟩
    refine ⟨⟨_, hmemory, Int.natCast_nonneg _, unsigned_lt 32 _⟩,
      ⟨_, htime, ?_, unsigned_lt 32 _⟩, ⟨_, hthreads, ?_, unsigned_lt 8 _⟩, ?_⟩
    · exact_mod_cast hone
    · exact_mod_cast hone'
    · exact Nat.ne_of_gt hkey
  · rintro ⟨⟨m, hm, hm0, hm1⟩, ⟨t, ht, ht0, ht1⟩, ⟨k, hk, hk0, hk1⟩, hhash⟩
    have hmemory : n.memory = m :=
      writes_unique hform.three htm.symm hpm.symm hpt.symm
        (follows_memory.written hfold hm) hm ht hk
    have htime : n.time = t :=
      writes_unique hform.three htm hpt.symm hpm.symm (follows_time.written hfold ht) ht hm hk
    have hthreads : n.threads = k :=
      writes_unique hform.three hpm hpt htm.symm (follows_threads.written hfold hk) hk hm ht
    subst hmemory htime hthreads
    refine ⟨?_, ?_, ?_, ?_, ?_, Nat.pos_of_ne_zero hhash⟩
    · rw [unsigned_eq hm0 hm1]
      exact hm
    · rw [unsigned_eq (by omega) ht1]
      exact ht
    · rw [unsigned_eq (by omega) hk1]
      exact hk
    · have heq := unsigned_eq (by omega) ht1
      simp only
      omega
    · have heq := unsigned_eq (by omega) hk1
      simp only
      omega

/-- The format comes back whole.  For any other text, what is accepted is sound exactly if
a text of the form has the three numbers, in range, and a hash that is not empty; then the
verification does not panic, and what it accepts has a hash. -/
theorem argon2id_format_iff
    (idKey : List UInt8 -> List UInt8 -> Argon2Params -> List UInt8) :
    (forall memory time threads salt hash, memory < 2 ^ 32 -> 1 ≤ time -> time < 2 ^ 32 ->
      1 ≤ threads -> threads ≤ 255 -> hash ≠ [] ->
      parseArgon2idHash (formatArgon2id memory time threads salt hash) =
        Except.ok
          ({ memory := memory, time := time, threads := threads,
             keyLen := hash.length % 2 ^ 32 }, salt, hash)) ∧
    (forall encodedHash,
      (forall p salt hash, parseArgon2idHash encodedHash = Except.ok (p, salt, hash) ->
        ParamsSound encodedHash p) <->
      forall salt hash, HasForm encodedHash salt hash ->
        InRange (hashParams encodedHash) hash) ∧
    (forall password encodedHash,
      (forall salt hash, HasForm encodedHash salt hash ->
        InRange (hashParams encodedHash) hash) ->
      exists accepted, verifyArgon2id idKey password encodedHash = some accepted ∧
        (accepted = true -> exists p salt hash,
          parseArgon2idHash encodedHash = Except.ok (p, salt, hash) ∧ hash ≠ [])) := by
  refine ⟨?_, ?_, ?_⟩
  · intro memory time threads salt hash hmemory _ htime _ hthreads _
    exact parse_format hmemory htime (Nat.lt_succ_of_le hthreads) salt hash
  · intro encodedHash
    constructor
    · intro hsound salt hash hform
      rcases Option.isSome_iff_exists.mp ((fold_isSome_iff _ _).mpr hform.numbers) with
        ⟨n, hfold⟩
      have hparse := parse_ok_iff.mpr ⟨hform, n, hfold, rfl⟩
      exact (paramsSound_iff hparse).mp (hsound _ _ _ hparse)
    · intro hrange p salt hash hparse
      exact (paramsSound_iff hparse).mpr (hrange salt hash (parse_ok_iff.mp hparse).left)
  · intro password encodedHash hrange
    cases hparse : parseArgon2idHash encodedHash with
    | error e =>
        refine ⟨false, ?_, fun haccepted => Bool.noConfusion haccepted⟩
        simp only [verifyArgon2id, hparse]
    | ok result =>
        rcases result with ⟨p, salt, hash⟩
        have hin := hrange salt hash (parse_ok_iff.mp hparse).left
        have hsound := (paramsSound_iff hparse).mpr hin
        refine ⟨decide (hash = idKey password salt p), ?_, fun _ => ⟨p, salt, hash, rfl, ?_⟩⟩
        · simp only [verifyArgon2id, hparse, if_pos hsound.acceptable]
        · rintro rfl
          exact hin.hash rfl

namespace SampleHash

/-- A salt of four bytes and a hash of four. -/
def salt : List UInt8 :=
  [115, 97, 108, 116]

def hash : List UInt8 :=
  [104, 97, 115, 104]

/-- Three parameters that nothing looks at, and no hash. -/
def empty : List UInt8 :=
  utf8 "$argon2id$v=19$a=1,b=2,c=3$$"

end SampleHash

theorem argon2id_format_iff_sample :
    parseArgon2idHash (formatArgon2id 65536 3 2 SampleHash.salt SampleHash.hash) =
      Except.ok
        ({ memory := 65536, time := 3, threads := 2, keyLen := 4 }, SampleHash.salt,
          SampleHash.hash) :=
  (argon2id_format_iff fun _ _ _ => []).left 65536 3 2 SampleHash.salt SampleHash.hash (by decide)
    (by decide) (by decide) (by decide) (by decide) (by decide)

/-- A hash without parameters is accepted with time 0 and an empty hash, and the
verification of any password panics. -/
theorem empty_hash_panics :
    parseArgon2idHash SampleHash.empty =
        Except.ok ({ memory := 0, time := 0, threads := 0, keyLen := 0 }, [], []) ∧
      ¬ ParamsSound SampleHash.empty { memory := 0, time := 0, threads := 0, keyLen := 0 } ∧
      forall idKey password, verifyArgon2id idKey password SampleHash.empty = none := by
  have hparse : parseArgon2idHash SampleHash.empty =
      Except.ok ({ memory := 0, time := 0, threads := 0, keyLen := 0 }, [], []) := by
    decide
  refine ⟨hparse, fun hsound => ?_, fun idKey password => ?_⟩
  · exact absurd hsound.acceptable (by decide)
  · rw [verifyArgon2id, hparse]
    rfl

end Accounts
end LeoOne
