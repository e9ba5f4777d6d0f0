import Mathlib.Data.List.Basic

/-!
# Addresses

The text of an address is a host, a colon with a port after it, and a path that begins with
a slash; the port and the path may be missing.  Every text is the text of exactly one
address, and the first colon and the first slash say where its parts are.
-/

namespace LeoOne
namespace Foundation

/-!
## Cutting a text
-/

section Cut

variable {α : Type} [DecidableEq α] (c : α)

/-- A text up to the first separator, and what follows it if there is one. -/
def cut : List α -> List α × Option (List α)
  | [] => ([], none)
  | b :: s => if b = c then ([], some s) else (b :: (cut s).1, (cut s).2)

/-- The separator with what follows it. -/
def tailText (rest : Option (List α)) : List α :=
  match rest with
  | none => []
  | some r => c :: r

theorem cut_cons (b : α) (s : List α) :
    cut c (b :: s) = if b = c then ([], some s) else (b :: (cut c s).1, (cut c s).2) := rfl

theorem cut_not_mem (s : List α) : c ∉ (cut c s).1 := by
  induction s with
  | nil =>
      exact List.not_mem_nil
  | cons b s ih =>
      rw [cut_cons]
      split
      · exact List.not_mem_nil
      · rename_i hne
        exact List.not_mem_cons_of_ne_of_not_mem (Ne.symm hne) ih

theorem cut_append (s : List α) : (cut c s).1 ++ tailText c (cut c s).2 = s := by
  induction s with
  | nil =>
      rfl
  | cons b s ih =>
      rw [cut_cons]
      split
      · rename_i heq
        rw [heq]
        rfl
      · exact congrArg (b :: ·) ih

variable {c}

theorem cut_unique {s : List α} (h : c ∉ s) (rest : Option (List α)) :
    cut c (s ++ tailText c rest) = (s, rest) := by
  induction s with
  | nil =>
      cases rest with
      | none =>
          rfl
      | some r =>
          exact if_pos rfl
  | cons b s ih =>
      have hne := List.ne_of_not_mem_cons h
      have hrest := List.not_mem_of_not_mem_cons h
      rw [List.cons_append, cut_cons, if_neg (Ne.symm hne), ih hrest]

/-- The first separator stands at the end of the first part. -/
theorem findIdx?_cut {s : List α} (h : c ∉ s) (rest : Option (List α)) :
    (s ++ tailText c rest).findIdx? (fun b => decide (b = c)) =
      rest.map fun _ => s.length := by
  have hnone : s.findIdx? (fun b => decide (b = c)) = none := by
    rw [List.findIdx?_eq_none_iff]
    intro b hb
    apply decide_eq_false
    rintro rfl
    exact h hb
  rw [List.findIdx?_append, hnone, Option.none_or]
  cases rest with
  | none =>
      rfl
  | some r =>
      rw [tailText, List.findIdx?_cons, if_pos (decide_eq_true rfl), Option.map_some,
        Option.map_some, Nat.zero_add]

end Cut

/-!
## The parts of an address
-/

/-- The parts of a text; a path is kept with its slash. -/
@[ext]
structure Address {α : Type} (colon slash : α) where
  host : List α
  port : Option (List α)
  path : Option (List α)
  host_colon : colon ∉ host
  host_slash : slash ∉ host
  port_slash : forall t, t ∈ port -> slash ∉ t
  path_slash : forall t, t ∈ path -> t.head? = some slash

namespace Address

variable {α : Type} {colon slash : α}

/-- The host and the port. -/
def authority (a : Address colon slash) : List α :=
  a.host ++ tailText colon a.port

def text (a : Address colon slash) : List α :=
  a.authority ++ a.path.getD []

theorem authority_slash (hsep : colon ≠ slash) (a : Address colon slash) :
    slash ∉ a.authority := by
  intro hmem
  rcases List.mem_append.mp hmem with hmem | hmem
  · exact a.host_slash hmem
  · cases hport : a.port with
    | none =>
        rw [hport] at hmem
        cases hmem
    | some t =>
        rw [hport] at hmem
        rcases List.mem_cons.mp hmem with heq | hmem
        · exact hsep heq.symm
        · exact a.port_slash t hport hmem

/-- A path is a slash and the rest of it. -/
theorem path_eq (a : Address colon slash) :
    exists rest : Option (List α),
      a.path = rest.map (slash :: ·) ∧ a.path.getD [] = tailText slash rest := by
  cases hpath : a.path with
  | none =>
      exact ⟨none, rfl, rfl⟩
  | some t =>
      have hhead := a.path_slash t hpath
      cases t with
      | nil =>
          cases hhead
      | cons b t =>
          cases hhead
          exact ⟨some t, rfl, rfl⟩

variable [DecidableEq α]

/-- The address that a text is of. -/
def ofText (s : List α) : Address colon slash where
  host := (cut colon (cut slash s).1).1
  port := (cut colon (cut slash s).1).2
  path := (cut slash s).2.map (slash :: ·)
  host_colon := cut_not_mem colon _
  host_slash := by
    intro hmem
    apply cut_not_mem slash s
    rw [← cut_append colon (cut slash s).1]
    exact List.mem_append_left _ hmem
  port_slash := by
    intro t ht hmem
    apply cut_not_mem slash s
    rw [← cut_append colon (cut slash s).1, Option.mem_def.mp ht]
    exact List.mem_append_right _ (List.mem_cons_of_mem colon hmem)
  path_slash := by
    intro t ht
    rcases Option.map_eq_some_iff.mp ht with ⟨r, _, rfl⟩
    rfl

theorem text_ofText (s : List α) : (ofText s : Address colon slash).text = s := by
  have hpath : ((cut slash s).2.map (slash :: ·)).getD [] = tailText slash (cut slash s).2 := by
    cases (cut slash s).2 <;> rfl
  rw [text, authority, ofText, cut_append, hpath, cut_append]

/-- The parts of a text are the only ones with that text. -/
theorem ofText_text (hsep : colon ≠ slash) (a : Address colon slash) : ofText a.text = a := by
  rcases a.path_eq with ⟨rest, hpath, htext⟩
  have hslash : cut slash a.text = (a.authority, rest) := by
    rw [text, htext, cut_unique (a.authority_slash hsep)]
  have hcolon : cut colon a.authority = (a.host, a.port) := by
    rw [authority, cut_unique a.host_colon]
  apply Address.ext
  · show (cut colon (cut slash a.text).1).1 = a.host
    rw [hslash, hcolon]
  · show (cut colon (cut slash a.text).1).2 = a.port
    rw [hslash, hcolon]
  · show (cut slash a.text).2.map (slash :: ·) = a.path
    rw [hslash, hpath]

/-!
## Where the parts are
-/

theorem findIdx?_slash (hsep : colon ≠ slash) (a : Address colon slash) :
    a.text.findIdx? (fun b => decide (b = slash)) =
      a.path.map fun _ => a.authority.length := by
  rcases a.path_eq with ⟨rest, hpath, htext⟩
  rw [text, htext, findIdx?_cut (a.authority_slash hsep), hpath]
  cases rest <;> rfl

/-- What begins with the first slash is the path. -/
theorem drop_slash (hsep : colon ≠ slash) (a : Address colon slash) (default : List α) :
    (match a.text.findIdx? (fun b => decide (b = slash)) with
      | some i => a.text.drop i
      | none => default) = a.path.getD default := by
  rw [a.findIdx?_slash hsep]
  cases hpath : a.path with
  | none =>
      rfl
  | some t =>
      show a.text.drop a.authority.length = t
      rw [text, List.drop_left, hpath]
      rfl

/-- With a port the first colon ends the host. -/
theorem findIdx?_colon (a : Address colon slash) {t : List α} (h : a.port = some t) :
    a.text.findIdx? (fun b => decide (b = colon)) = some a.host.length ∧
      a.text.take a.host.length = a.host ∧
      a.text.drop (a.host.length + 1) = t ++ a.path.getD [] ∧
      a.host.length < a.authority.length := by
  have htext : a.text = a.host ++ tailText colon (some (t ++ a.path.getD [])) := by
    rw [text, authority, h, List.append_assoc]
    rfl
  have hlength : a.host.length < a.authority.length := by
    rw [authority, h, List.length_append, tailText, List.length_cons]
    omega
  rw [htext]
  refine ⟨findIdx?_cut a.host_colon _, List.take_left, ?_, hlength⟩
  rw [tailText, ← List.drop_drop, List.drop_left]
  rfl

/-- Without a port the host ends with the first slash, or with the text, and a colon comes
later. -/
theorem findIdx?_no_port (a : Address colon slash) (hport : a.port = none) :
    a.authority = a.host ∧ a.text.take a.host.length = a.host ∧
      (a.path = none -> a.text.length = a.host.length) ∧
      forall i, a.text.findIdx? (fun b => decide (b = colon)) = some i -> a.host.length ≤ i ∧
        a.path ≠ none := by
  have hauthority : a.authority = a.host := by
    rw [authority, hport]
    exact List.append_nil _
  have htext : a.text = a.host ++ a.path.getD [] := by
    rw [text, hauthority]
  have hnone : a.host.findIdx? (fun b => decide (b = colon)) = none := by
    have hcut := findIdx?_cut a.host_colon (none : Option (List α))
    rwa [tailText, List.append_nil] at hcut
  refine ⟨hauthority, ?_, ?_, ?_⟩
  · rw [htext, List.take_left]
  · intro hpath
    rw [htext, hpath, Option.getD_none, List.append_nil]
  · intro i hi
    rw [htext, List.findIdx?_append, hnone, Option.none_or, Option.map_eq_some_iff] at hi
    rcases hi with ⟨j, hj, rfl⟩
    refine ⟨Nat.le_add_left _ _, ?_⟩
    intro hpath
    rw [hpath] at hj
    cases hj

end Address
end Foundation
end LeoOne
