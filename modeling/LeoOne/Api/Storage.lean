import LeoOne.Api.ServerPart

/-!
# What is stored

A file is written by the one goroutine that has made it, under a name that nobody
else draws, and its row is inserted when it is complete.  From then on nothing writes
to it: it can only lose its name.  So every row, also one that a handler still holds
when the table has lost it, tells the size and the digest of what its path refers to,
if it still refers to anything.
-/

namespace LeoOne
namespace Api

open Foundation

/-- The path has been drawn. -/
def Reserved (cfg : FileConfig) (l : Library) (path : String) : Prop :=
  exists n, n ∈ l.names ∧ path = cfg.storagePath n

/-- The step writes to that file. -/
def writes (fd : Nat) : Step -> Bool
  | Step.file (FileStep.copy _ _ fd' _) => fd' = fd
  | _ => false

/-- The file is complete: this is its content, and nobody writes to it. -/
structure Settled (p : State) (fd : Nat) (content : List UInt8) : Prop where
  made : fd < p.shared.library.disk.inodes.length
  content : p.shared.library.disk.contents fd = content
  quiet : Pool.pendingCount (writes fd) p = 0

/-- If the path refers to a file, then to a complete one, with that content. -/
def Bound (cfg : FileConfig) (p : State) (path : String) (content : List UInt8) : Prop :=
  Reserved cfg p.shared.library path ∧
    forall fd, p.shared.library.disk.lookup path = some fd -> Settled p fd content

/-- The row tells the size and the digest of the content that it was made for. -/
def Describes (cfg : FileConfig) (l : Library) (f : FileRow) (content : List UInt8) : Prop :=
  (f.id, content) ∈ l.uploaded ∧ f.sizeBytes = content.length ∧
    f.checksumSha256 = cfg.sha256 content

/-- The row describes what is stored under its path. -/
def Kept (cfg : FileConfig) (p : State) (f : FileRow) : Prop :=
  exists content, Describes cfg p.shared.library f content ∧
    Bound cfg p f.storagePath content

/-- A pending step goes on with what is true of the files it knows. -/
def Fit (cfg : FileConfig) (p : State) : Step -> Prop
  | Step.file (FileStep.copy u path fd written) =>
      Reserved cfg p.shared.library path ∧ fd < p.shared.library.disk.inodes.length ∧
        written ≤ u.content.length ∧
        p.shared.library.disk.contents fd = u.content.take written ∧
        forall fd', p.shared.library.disk.lookup path = some fd' -> fd' = fd
  | Step.file (FileStep.close u path _ written failed) =>
      failed = false -> written = u.content.length ∧ Bound cfg p path u.content
  | Step.file (FileStep.insertFile u path written) =>
      written = u.content.length ∧ Bound cfg p path u.content
  | Step.file (FileStep.openFile _ f) => Kept cfg p f
  | Step.file (FileStep.serveContent _ f fd) =>
      exists content, Describes cfg p.shared.library f content ∧ Settled p fd content
  | Step.handler (HandlerStep.createDownloadToken _ _ f) => Kept cfg p f
  | Step.insert (Origin.deploy _ d) _ =>
      exists content, Describes cfg p.shared.library d.file content
  | _ => True

structure StoreLaw (cfg : FileConfig) (p : State) : Prop where
  paths : forall {path fd}, (path, fd) ∈ p.shared.library.disk.names ->
    fd < p.shared.library.disk.inodes.length ∧ Reserved cfg p.shared.library path
  single : forall fd, Pool.pendingCount (writes fd) p ≤ 1
  fit : forall {k}, p.Pending k -> Fit cfg p k
  rows : forall {f}, f ∈ p.shared.library.files -> Kept cfg p f
  uploads : forall {id content content'}, (id, content) ∈ p.shared.library.uploaded ->
    (id, content') ∈ p.shared.library.uploaded -> content' = content
  drawn : forall {id content}, (id, content) ∈ p.shared.library.uploaded ->
    id ∈ p.shared.library.names
  served : forall {r}, r ∈ p.shared.library.served -> r.status = 200 -> r.complete = true ->
    (r.fileId, r.body) ∈ p.shared.library.uploaded
  deployed : forall {id caller d}, (id, Origin.deploy caller d) ∈ p.shared.dispatched ->
    exists content, Describes cfg p.shared.library d.file content

theorem FileConfig.storagePath_injective (cfg : FileConfig) {n m : Uuid}
    (h : cfg.storagePath n = cfg.storagePath m) : n = m := by
  unfold storagePath at h
  exact Uuid.ext_text ((String.append_right_inj _).mp h)

/-- A path that has not been drawn refers to nothing. -/
theorem StoreLaw.fresh {cfg : FileConfig} {p : State} (hlaw : StoreLaw cfg p) {n : Uuid}
    (hn : n ∉ p.shared.library.names) :
    p.shared.library.disk.lookup (cfg.storagePath n) = none := by
  cases hlookup : p.shared.library.disk.lookup (cfg.storagePath n) with
  | none =>
      rfl
  | some fd =>
      rcases (hlaw.paths (Disk.lookup_mem hlookup)).right with ⟨m, hm, heq⟩
      rw [cfg.storagePath_injective heq] at hn
      exact absurd hm hn

/-- A writer's file has been made. -/
theorem StoreLaw.writer_made {cfg : FileConfig} {p : State} (hlaw : StoreLaw cfg p) {k : Step}
    {fd : Nat} (hk : p.Pending k) (hwrites : writes fd k = true) :
    fd < p.shared.library.disk.inodes.length := by
  have hfit := hlaw.fit hk
  unfold writes at hwrites
  split at hwrites
  · rw [← of_decide_eq_true hwrites]
    exact hfit.right.left
  · cases hwrites

/-!
## What stays true
-/

/-- What every step leaves as it was, apart from the file that it writes to. -/
structure Extends (cfg : FileConfig) (p p' : State) (k : Step) : Prop where
  idle : forall {fd}, Pool.pendingCount (writes fd) p = 0 -> writes fd k = false
  names : forall {n}, n ∈ p.shared.library.names -> n ∈ p'.shared.library.names
  uploaded : forall {e}, e ∈ p.shared.library.uploaded -> e ∈ p'.shared.library.uploaded
  lookup : forall {path fd}, Reserved cfg p.shared.library path ->
    p'.shared.library.disk.lookup path = some fd ->
    p.shared.library.disk.lookup path = some fd
  made : forall {fd}, fd < p.shared.library.disk.inodes.length ->
    fd < p'.shared.library.disk.inodes.length
  contents : forall {fd}, fd < p.shared.library.disk.inodes.length -> writes fd k = false ->
    p'.shared.library.disk.contents fd = p.shared.library.disk.contents fd
  quiet : forall {fd}, fd < p.shared.library.disk.inodes.length -> writes fd k = false ->
    Pool.pendingCount (writes fd) p' ≤ Pool.pendingCount (writes fd) p

section Extends

variable {cfg : FileConfig} {p p' : State} {k : Step}

theorem Reserved.step {path : String} (h : Reserved cfg p.shared.library path)
    (hext : Extends cfg p p' k) : Reserved cfg p'.shared.library path := by
  rcases h with ⟨n, hn, hpath⟩
  exact ⟨n, hext.names hn, hpath⟩

theorem idle_of_pending {fd : Nat} (hk : p.Pending k)
    (hquiet : Pool.pendingCount (writes fd) p = 0) : writes fd k = false := by
  by_contra hwrites
  rw [Bool.not_eq_false] at hwrites
  have hpos := Pool.pendingCount_pos hk hwrites
  rw [hquiet] at hpos
  exact Nat.lt_irrefl 0 hpos

theorem Settled.step {fd : Nat} {content : List UInt8} (h : Settled p fd content)
    (hext : Extends cfg p p' k) : Settled p' fd content := by
  have hother := hext.idle h.quiet
  refine ⟨hext.made h.made, ?_, ?_⟩
  · rw [hext.contents h.made hother]
    exact h.content
  · have hle := hext.quiet h.made hother
    rw [h.quiet] at hle
    exact Nat.le_zero.mp hle

theorem Bound.step {path : String} {content : List UInt8} (h : Bound cfg p path content)
    (hext : Extends cfg p p' k) : Bound cfg p' path content := by
  rcases h with ⟨hreserved, hall⟩
  refine ⟨hreserved.step hext, ?_⟩
  intro fd hlookup
  exact (hall fd (hext.lookup hreserved hlookup)).step hext

theorem Describes.step {f : FileRow} {content : List UInt8}
    (h : Describes cfg p.shared.library f content) (hext : Extends cfg p p' k) :
    Describes cfg p'.shared.library f content :=
  ⟨hext.uploaded h.left, h.right⟩

theorem Kept.step {f : FileRow} (h : Kept cfg p f) (hext : Extends cfg p p' k) :
    Kept cfg p' f := by
  rcases h with ⟨content, hdescribes, hbound⟩
  exact ⟨content, hdescribes.step hext, hbound.step hext⟩

/-- Steps keep what they go on with, unless two of them write to one file. -/
theorem Fit.step {j : Step} (h : Fit cfg p j) (hext : Extends cfg p p' k)
    (hother : forall fd, writes fd j = true -> writes fd k = false) : Fit cfg p' j := by
  unfold Fit at h ⊢
  split
  · rename_i u path fd written
    rcases h with ⟨hreserved, hmade, hle, hcontent, hpath⟩
    refine ⟨hreserved.step hext, hext.made hmade, hle, ?_, ?_⟩
    · rw [hext.contents hmade (hother fd (decide_eq_true rfl))]
      exact hcontent
    · intro fd' hlookup
      exact hpath fd' (hext.lookup hreserved hlookup)
  · intro hfailed
    rcases h hfailed with ⟨hwritten, hbound⟩
    exact ⟨hwritten, hbound.step hext⟩
  · exact ⟨h.left, h.right.step hext⟩
  · exact h.step hext
  · rcases h with ⟨content, hdescribes, hsettled⟩
    exact ⟨content, hdescribes.step hext, hsettled.step hext⟩
  · exact h.step hext
  · rcases h with ⟨content, hdescribes⟩
    exact ⟨content, hdescribes.step hext⟩
  · trivial

end Extends

end Api
end LeoOne
