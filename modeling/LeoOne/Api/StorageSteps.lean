import LeoOne.Api.Storage

/-!
# Storing and removing files

Every step of the library, of the handlers and of the server keeps what is stored and
what the pending steps know of it.  The one step that changes a file is a chunk of
`io.Copy`, in the goroutine that has made the file.
-/

namespace LeoOne
namespace Api

open Foundation

/-!
## Steps of the library
-/

section Moves

variable {cfg : FileConfig} {x : FileInput} {l l' : Library} {f : FileStep}
  {cont : List FileStep}

theorem FileMove.length_le (hmove : FileMove cfg x l f l' cont) : cont.length ≤ 1 := by
  cases hmove <;> simp

theorem FileMove.names_mono (hmove : FileMove cfg x l f l' cont) {n : Uuid}
    (h : n ∈ l.names) : n ∈ l'.names := by
  cases hmove with
  | fileCreated =>
      exact List.mem_cons_of_mem _ h
  | rowInserted =>
      exact List.mem_cons_of_mem _ h
  | deleted hdelete =>
      rcases Library.delete_some hdelete with ⟨_, _, _, rfl⟩
      exact h
  | consumed hconsume =>
      rw [(Library.consumeDownloadToken_some hconsume).right]
      exact h
  | _ =>
      exact h

theorem FileMove.uploaded_mono (hmove : FileMove cfg x l f l' cont)
    {e : Uuid × List UInt8} (h : e ∈ l.uploaded) : e ∈ l'.uploaded := by
  cases hmove with
  | rowInserted =>
      exact List.mem_cons_of_mem _ h
  | deleted hdelete =>
      rcases Library.delete_some hdelete with ⟨_, _, _, rfl⟩
      exact h
  | consumed hconsume =>
      rw [(Library.consumeDownloadToken_some hconsume).right]
      exact h
  | _ =>
      exact h

/-- How the step changes the disk. -/
theorem FileMove.disk (hmove : FileMove cfg x l f l' cont) :
    l'.disk = l.disk ∨
    (f.drawsUuid = true ∧ l'.disk = (l.disk.create (cfg.storagePath x.uuid)).1 ∧
      x.uuid ∈ l'.names) ∨
    (exists fd chunk, writes fd (Step.file f) = true ∧ l'.disk = l.disk.append fd chunk) ∨
    (exists path, l'.disk = l.disk.unlink path) := by
  cases hmove with
  | fileCreated =>
      exact Or.inr (Or.inl ⟨rfl, rfl, List.mem_cons_self⟩)
  | copyFailed =>
      exact Or.inr (Or.inr (Or.inl ⟨_, _, decide_eq_true rfl, rfl⟩))
  | chunkCopied =>
      exact Or.inr (Or.inr (Or.inl ⟨_, _, decide_eq_true rfl, rfl⟩))
  | removed =>
      exact Or.inr (Or.inr (Or.inr ⟨_, rfl⟩))
  | deleted hdelete =>
      rcases Library.delete_some hdelete with ⟨_, _, _, rfl⟩
      exact Or.inl rfl
  | consumed hconsume =>
      rw [(Library.consumeDownloadToken_some hconsume).right]
      exact Or.inl rfl
  | _ =>
      exact Or.inl rfl

/-- A goroutine comes to write to a file that it has just made, or that it was writing
to. -/
theorem FileMove.writer (hmove : FileMove cfg x l f l' cont) {j : FileStep} (hj : j ∈ cont)
    {fd : Nat} (hwrites : writes fd (Step.file j) = true) :
    (f.drawsUuid = true ∧ fd = (l.disk.create (cfg.storagePath x.uuid)).2) ∨
      writes fd (Step.file f) = true := by
  cases hmove with
  | fileCreated =>
      cases List.mem_singleton.mp hj
      exact Or.inl ⟨rfl, (of_decide_eq_true hwrites).symm⟩
  | chunkCopied =>
      cases List.mem_singleton.mp hj
      exact Or.inr hwrites
  | answered | rowInserted | removed | sent =>
      cases hj
  | _ =>
      cases List.mem_singleton.mp hj
      cases hwrites

end Moves

section Steps

variable {cfg : FileConfig} {p p' : State} {x : Input} {k : Step} {o : Outcome Service Step}

theorem quiet_of_created (hexec : Pool.Executed p p' k o) {fd : Nat}
    (hnone : forall j, j ∈ o.created -> writes fd j = false) :
    Pool.pendingCount (writes fd) p' ≤ Pool.pendingCount (writes fd) p := by
  have hcount := hexec.count (writes fd)
  have hzero : o.created.countP (writes fd) = 0 := by
    apply List.countP_eq_zero.mpr
    intro j hj
    rw [hnone j hj]
    exact Bool.false_ne_true
  omega

theorem StoreLaw.create_new (hlaw : StoreLaw cfg p) {n : Uuid}
    (hn : n ∉ p.shared.library.names) :
    p.shared.library.disk.create (cfg.storagePath n) =
      ({ inodes := p.shared.library.disk.inodes ++ [[]]
         names := p.shared.library.disk.names ++
           [(cfg.storagePath n, p.shared.library.disk.inodes.length)] },
        p.shared.library.disk.inodes.length) :=
  Disk.create_new (hlaw.fresh hn)

/-- A step of the library makes no further writer of a file that exists. -/
theorem StoreLaw.quiet_file {f : FileStep} {l : Library} {cont : List FileStep}
    (hlaw : StoreLaw cfg p) (hexec : Pool.Executed p p' (Step.file f) o)
    (hcreated : o.created = cont.map Step.file)
    (hdraws : f.drawsUuid = true -> x.uuid ∉ p.shared.library.names)
    (hmove : FileMove cfg x.file p.shared.library f l cont) {fd : Nat}
    (hfd : fd < p.shared.library.disk.inodes.length)
    (hother : writes fd (Step.file f) = false) :
    Pool.pendingCount (writes fd) p' ≤ Pool.pendingCount (writes fd) p := by
  apply quiet_of_created hexec
  intro j hj
  rw [hcreated] at hj
  rcases List.mem_map.mp hj with ⟨step, hstep, rfl⟩
  by_contra hwrites
  rw [Bool.not_eq_false] at hwrites
  rcases hmove.writer hstep hwrites with ⟨hdraw, hnew⟩ | hsame
  · have hcreate := hlaw.create_new (hdraws hdraw)
    rw [show x.file.uuid = x.uuid from rfl, hcreate] at hnew
    exact Nat.ne_of_lt hfd hnew
  · rw [hother] at hsame
    cases hsame

theorem StoreLaw.extends_file {f : FileStep} {l : Library} {cont : List FileStep}
    (hlaw : StoreLaw cfg p) (hexec : Pool.Executed p p' (Step.file f) o)
    (hlibrary : p'.shared.library = l) (hcreated : o.created = cont.map Step.file)
    (hdraws : f.drawsUuid = true -> x.uuid ∉ p.shared.library.names)
    (hmove : FileMove cfg x.file p.shared.library f l cont) :
    Extends cfg p p' (Step.file f) := by
  subst hlibrary
  have hidle : forall {fd : Nat}, Pool.pendingCount (writes fd) p = 0 ->
      writes fd (Step.file f) = false :=
    fun hnone => idle_of_pending hexec.running hnone
  have hquiet : forall {fd : Nat}, fd < p.shared.library.disk.inodes.length ->
      writes fd (Step.file f) = false ->
      Pool.pendingCount (writes fd) p' ≤ Pool.pendingCount (writes fd) p :=
    fun hfd hother => hlaw.quiet_file hexec hcreated hdraws hmove hfd hother
  rcases hmove.disk with hsame | ⟨hdraw, hnew, _⟩ | ⟨fd, chunk, hwrites, hwritten⟩ | ⟨path, hunlink⟩
  · refine ⟨hidle, hmove.names_mono, hmove.uploaded_mono, ?_, ?_, ?_, hquiet⟩
    · intro path fd _ hlookup
      rw [hsame] at hlookup
      exact hlookup
    · intro fd hfd
      rw [hsame]
      exact hfd
    · intro fd _ _
      rw [hsame]
  · have hfresh := hlaw.fresh (hdraws hdraw)
    refine ⟨hidle, hmove.names_mono, hmove.uploaded_mono, ?_, ?_, ?_, hquiet⟩
    · intro path fd hreserved hlookup
      rw [hnew] at hlookup
      rcases Disk.lookup_create_new hfresh hlookup with hold | ⟨hpath, _⟩
      · exact hold
      · rcases hreserved with ⟨n, hn, hname⟩
        rw [cfg.storagePath_injective (hname.symm.trans hpath)] at hn
        exact absurd hn (hdraws hdraw)
    · intro fd hfd
      rw [hnew, show x.file.uuid = x.uuid from rfl, hlaw.create_new (hdraws hdraw),
        List.length_append]
      exact Nat.lt_add_right _ hfd
    · intro fd hfd _
      rw [hnew]
      exact Disk.contents_create_new hfresh hfd
  · refine ⟨hidle, hmove.names_mono, hmove.uploaded_mono, ?_, ?_, ?_, hquiet⟩
    · intro path fd' _ hlookup
      rw [hwritten] at hlookup
      exact hlookup
    · intro fd' hfd
      rw [hwritten, Disk.append, List.length_set]
      exact hfd
    · intro fd' _ hother
      rw [hwritten]
      apply Disk.contents_append_other
      intro heq
      rw [heq, hother] at hwrites
      cases hwrites
  · refine ⟨hidle, hmove.names_mono, hmove.uploaded_mono, ?_, ?_, ?_, hquiet⟩
    · intro path' fd _ hlookup
      rw [hunlink] at hlookup
      exact (Disk.lookup_unlink hlookup).left
    · intro fd hfd
      rw [hunlink]
      exact hfd
    · intro fd _ _
      rw [hunlink]
      rfl

theorem StoreLaw.paths_file {f : FileStep} {l : Library} {cont : List FileStep}
    (hlaw : StoreLaw cfg p) (hlibrary : p'.shared.library = l)
    (hext : Extends cfg p p' (Step.file f))
    (hdraws : f.drawsUuid = true -> x.uuid ∉ p.shared.library.names)
    (hmove : FileMove cfg x.file p.shared.library f l cont) {path : String} {fd : Nat}
    (h : (path, fd) ∈ l.disk.names) :
    fd < l.disk.inodes.length ∧ Reserved cfg l path := by
  subst hlibrary
  have hold : (path, fd) ∈ p.shared.library.disk.names ->
      fd < p'.shared.library.disk.inodes.length ∧ Reserved cfg p'.shared.library path := by
    intro hmem
    rcases hlaw.paths hmem with ⟨hmade, hreserved⟩
    exact ⟨hext.made hmade, hreserved.step hext⟩
  rcases hmove.disk with hsame | ⟨hdraw, hnew, hname⟩ | ⟨_, _, _, hwritten⟩ | ⟨_, hunlink⟩
  · rw [hsame] at h
    exact hold h
  · have hcreate := hlaw.create_new (hdraws hdraw)
    rw [show x.file.uuid = x.uuid from rfl, hcreate] at hnew
    rw [hnew] at h
    rcases List.mem_append.mp h with hmem | hlast
    · exact hold hmem
    · cases List.mem_singleton.mp hlast
      rw [hnew, List.length_append]
      exact ⟨Nat.lt_succ_self _, x.uuid, hname, rfl⟩
  · rw [hwritten] at h
    exact hold h
  · rw [hunlink] at h
    exact hold (List.mem_filter.mp h).left

theorem StoreLaw.single_file {f : FileStep} {l : Library} {cont : List FileStep}
    (hlaw : StoreLaw cfg p) (hexec : Pool.Executed p p' (Step.file f) o)
    (hcreated : o.created = cont.map Step.file)
    (hdraws : f.drawsUuid = true -> x.uuid ∉ p.shared.library.names)
    (hmove : FileMove cfg x.file p.shared.library f l cont) (fd : Nat) :
    Pool.pendingCount (writes fd) p' ≤ 1 := by
  have hsingle := hlaw.single fd
  have hcount := hexec.count (writes fd)
  have hone : o.created.countP (writes fd) ≤ 1 := by
    refine Nat.le_trans List.countP_le_length ?_
    rw [hcreated, List.length_map]
    exact hmove.length_le
  cases hwrites : writes fd (Step.file f) with
  | true =>
      rw [List.countP_singleton, if_pos hwrites] at hcount
      omega
  | false =>
      by_cases hnone : o.created.countP (writes fd) = 0
      · omega
      · -- the goroutine has just made the file, so nobody wrote to it before
        rcases List.countP_pos_iff.mp (Nat.pos_of_ne_zero hnone) with ⟨j, hj, hwriter⟩
        rw [hcreated] at hj
        rcases List.mem_map.mp hj with ⟨step, hstep, rfl⟩
        have hzero : Pool.pendingCount (writes fd) p = 0 := by
          rcases hmove.writer hstep hwriter with ⟨hdraw, hnew⟩ | hsame
          · rw [show x.file.uuid = x.uuid from rfl, hlaw.create_new (hdraws hdraw)] at hnew
            apply Pool.pendingCount_eq_zero
            intro i hi
            by_contra hother
            rw [Bool.not_eq_false] at hother
            exact Nat.ne_of_lt (hlaw.writer_made hi hother) hnew
          · rw [hwrites] at hsame
            cases hsame
        omega

/-- A pending step is new, or it writes to no file that the executed step has written
to. -/
theorem StoreLaw.pending_other (hlaw : StoreLaw cfg p) (hexec : Pool.Executed p p' k o)
    (hsingle : forall fd, Pool.pendingCount (writes fd) p' ≤ 1) {j : Step}
    (hj : p'.Pending j) :
    j ∈ o.created ∨ (p.Pending j ∧ forall fd, writes fd j = true -> writes fd k = false) := by
  rcases hexec.pending hj with hnew | hold
  · exact Or.inl hnew
  · by_cases hboth : exists fd, writes fd j = true ∧ writes fd k = true
    · rcases hboth with ⟨fd, hwj, hwk⟩
      left
      have hcount := hexec.count (writes fd)
      rw [List.countP_singleton, if_pos hwk] at hcount
      have hbefore := hlaw.single fd
      have hafter := Pool.pendingCount_pos hj hwj
      have hpos : 0 < o.created.countP (writes fd) := by
        omega
      rcases List.countP_pos_iff.mp hpos with ⟨i, hi, hwi⟩
      rw [Pool.pending_unique (hsingle fd) hj (hexec.made hi) hwj hwi]
      exact hi
    · refine Or.inr ⟨hold, ?_⟩
      intro fd hwj
      by_contra hwk
      rw [Bool.not_eq_false] at hwk
      exact hboth ⟨fd, hwj, hwk⟩

/-- The file of a goroutine that has just made it. -/
theorem StoreLaw.fit_made (hlaw : StoreLaw cfg p) {u : Upload}
    (hnew : x.uuid ∉ p.shared.library.names)
    (hlibrary : p'.shared.library = p.shared.library.fileCreated cfg x.file) :
    Fit cfg p' (Step.file (FileStep.copy u (cfg.storagePath x.uuid)
      (p.shared.library.disk.create (cfg.storagePath x.uuid)).2 0)) := by
  have hfresh := hlaw.fresh hnew
  have hdisk : p'.shared.library.disk =
      (p.shared.library.disk.create (cfg.storagePath x.uuid)).1 := by
    rw [hlibrary]
    rfl
  unfold Fit
  rw [hdisk, hlaw.create_new hnew]
  refine ⟨⟨x.uuid, ?_, rfl⟩, ?_, Nat.zero_le _, ?_, ?_⟩
  · rw [hlibrary]
    exact List.mem_cons_self
  · rw [List.length_append]
    exact Nat.lt_succ_self _
  · have hempty := Disk.contents_created hfresh
    rw [hlaw.create_new hnew] at hempty
    exact hempty
  · intro fd' hlookup
    have hlookup' : (p.shared.library.disk.create (cfg.storagePath x.uuid)).1.lookup
        (cfg.storagePath x.uuid) = some fd' := by
      rw [hlaw.create_new hnew]
      exact hlookup
    rcases Disk.lookup_create_new hfresh hlookup' with hold | ⟨_, heq⟩
    · rw [hfresh] at hold
      cases hold
    · exact heq

/-- The file of a goroutine that has written a chunk. -/
theorem StoreLaw.fit_chunk (hlaw : StoreLaw cfg p) {u : Upload} {path : String}
    {fd written : Nat} (hk : p.Pending (Step.file (FileStep.copy u path fd written)))
    (hext : Extends cfg p p' (Step.file (FileStep.copy u path fd written)))
    (hlibrary : p'.shared.library =
      p.shared.library.written fd ((u.content.drop written).take x.bytes)) :
    Fit cfg p' (Step.file (FileStep.copy u path fd
      (written + ((u.content.drop written).take x.bytes).length))) := by
  rcases hlaw.fit hk with ⟨hreserved, hmade, hle, hcontent, hpath⟩
  refine ⟨hreserved.step hext, hext.made hmade, ?_, ?_, ?_⟩
  · rw [List.length_take, List.length_drop]
    omega
  · have hchunk := List.prefix_iff_eq_take.mp (List.take_prefix x.bytes (u.content.drop written))
    rw [hlibrary, Library.written, Disk.contents_append_self hmade, hcontent, List.take_add,
      ← hchunk]
  · intro fd' hlookup
    exact hpath fd' (hext.lookup hreserved hlookup)

/-- The file of a goroutine that has written everything. -/
theorem StoreLaw.bound_copied (hlaw : StoreLaw cfg p) {u : Upload} {path : String} {fd : Nat}
    (hexec : Pool.Executed p p' (Step.file (FileStep.copy u path fd u.content.length)) o)
    (hext : Extends cfg p p' (Step.file (FileStep.copy u path fd u.content.length)))
    (hlibrary : p'.shared.library = p.shared.library)
    (hcreated : o.created.countP (writes fd) = 0) : Bound cfg p' path u.content := by
  rcases hlaw.fit hexec.running with ⟨hreserved, hmade, _, hcontent, hpath⟩
  have hsingle := hlaw.single fd
  have hcount := hexec.count (writes fd)
  have hwrites : writes fd (Step.file (FileStep.copy u path fd u.content.length)) = true :=
    decide_eq_true rfl
  rw [List.countP_singleton, if_pos hwrites, hcreated] at hcount
  refine ⟨hreserved.step hext, ?_⟩
  intro fd' hlookup
  have heq := hpath fd' (hext.lookup hreserved hlookup)
  subst heq
  refine ⟨hext.made hmade, ?_, ?_⟩
  · rw [hlibrary, hcontent, List.take_length]
  · omega

theorem StoreLaw.fit_created {f : FileStep} {l : Library} {cont : List FileStep}
    (hlaw : StoreLaw cfg p) (hexec : Pool.Executed p p' (Step.file f) o)
    (hlibrary : p'.shared.library = l) (hcreated : o.created = cont.map Step.file)
    (hdraws : f.drawsUuid = true -> x.uuid ∉ p.shared.library.names)
    (hmove : FileMove cfg x.file p.shared.library f l cont)
    (hext : Extends cfg p p' (Step.file f)) {j : FileStep} (hj : j ∈ cont) :
    Fit cfg p' (Step.file j) := by
  have hk := hexec.running
  cases hmove with
  | answered | rowInserted | removed | sent =>
      cases hj
  | fileCreated =>
      cases List.mem_singleton.mp hj
      exact hlaw.fit_made (hdraws rfl) hlibrary
  | copyFailed =>
      cases List.mem_singleton.mp hj
      intro hfailed
      cases hfailed
  | copied =>
      cases List.mem_singleton.mp hj
      intro _
      refine ⟨rfl, hlaw.bound_copied hexec hext hlibrary ?_⟩
      rw [hcreated]
      rfl
  | chunkCopied =>
      cases List.mem_singleton.mp hj
      exact hlaw.fit_chunk hk hext hlibrary
  | closed =>
      cases List.mem_singleton.mp hj
      rcases hlaw.fit hk rfl with ⟨hwritten, hbound⟩
      exact ⟨hwritten, hbound.step hext⟩
  | foundServed hmem =>
      cases List.mem_singleton.mp hj
      exact (hlaw.rows hmem).step hext
  | opened hlookup =>
      cases List.mem_singleton.mp hj
      rcases hlaw.fit hk with ⟨content, hdescribes, hbound⟩
      exact ⟨content, hdescribes.step hext, (hbound.right _ hlookup).step hext⟩
  | named | abandoned | foundForDelete | deleted _ | consumed _ =>
      cases List.mem_singleton.mp hj
      trivial

/-- The rows after a step of the library. -/
theorem StoreLaw.rows_file {f : FileStep} {l : Library} {cont : List FileStep}
    (hlaw : StoreLaw cfg p) (hk : p.Pending (Step.file f)) (hlibrary : p'.shared.library = l)
    (hmove : FileMove cfg x.file p.shared.library f l cont)
    (hext : Extends cfg p p' (Step.file f)) {row : FileRow} (h : row ∈ l.files) :
    Kept cfg p' row := by
  have hold : row ∈ p.shared.library.files -> Kept cfg p' row :=
    fun hmem => (hlaw.rows hmem).step hext
  cases hmove with
  | rowInserted =>
      rename_i u path written tenant
      rcases List.mem_append.mp h with hmem | hnew
      · exact hold hmem
      · rcases hlaw.fit hk with ⟨hwritten, hbound⟩
        subst hwritten
        rw [List.mem_singleton.mp hnew]
        refine ⟨u.content, ⟨?_, rfl, ?_⟩, hbound.step hext⟩
        · rw [hlibrary]
          exact List.mem_cons_self
        · exact congrArg cfg.sha256 (List.take_length)
  | deleted hdelete =>
      rcases Library.delete_some hdelete with ⟨_, _, _, rfl⟩
      exact hold (Table.mem_deleteWhere.mp h).left
  | consumed hconsume =>
      rw [(Library.consumeDownloadToken_some hconsume).right] at h
      exact hold h
  | _ =>
      exact hold h

/-- The uploads after a step of the library. -/
theorem FileMove.uploaded {f : FileStep} {l l' : Library} {cont : List FileStep}
    {x : FileInput} (hmove : FileMove cfg x l f l' cont) :
    (l'.uploaded = l.uploaded) ∨
      (f.drawsUuid = true ∧ x.uuid ∈ l'.names ∧ exists content,
        l'.uploaded = (x.uuid, content) :: l.uploaded) := by
  cases hmove with
  | rowInserted =>
      exact Or.inr ⟨rfl, List.mem_cons_self, _, rfl⟩
  | deleted hdelete =>
      rcases Library.delete_some hdelete with ⟨_, _, _, rfl⟩
      exact Or.inl rfl
  | consumed hconsume =>
      rw [(Library.consumeDownloadToken_some hconsume).right]
      exact Or.inl rfl
  | _ =>
      exact Or.inl rfl

theorem StoreLaw.served_file {f : FileStep} {l : Library} {cont : List FileStep}
    (hlaw : StoreLaw cfg p) (hk : p.Pending (Step.file f))
    (hmove : FileMove cfg x.file p.shared.library f l cont) {r : Response}
    (h : r ∈ l.served) (hstatus : r.status = 200) (hcomplete : r.complete = true) :
    (r.fileId, r.body) ∈ l.uploaded := by
  have hold : r ∈ p.shared.library.served -> (r.fileId, r.body) ∈ l.uploaded :=
    fun hmem => hmove.uploaded_mono (hlaw.served hmem hstatus hcomplete)
  cases hmove with
  | sent =>
      rename_i token row fd
      rcases List.mem_cons.mp h with hnew | hmem
      · subst hnew
        rcases hlaw.fit hk with ⟨content, hdescribes, hsettled⟩
        have hbody : (p.shared.library.response x.file token row fd).body = content := by
          have hlen := of_decide_eq_true hcomplete
          have hall : (p.shared.library.disk.contents fd).take x.file.bytes =
              p.shared.library.disk.contents fd := List.take_of_length_le hlen
          simp only [Library.response] at hstatus ⊢
          rw [if_pos hstatus, hall, hsettled.content]
        rw [hbody]
        exact hdescribes.left
      · exact hold hmem
  | deleted hdelete =>
      rcases Library.delete_some hdelete with ⟨_, _, _, rfl⟩
      exact hold h
  | consumed hconsume =>
      rw [(Library.consumeDownloadToken_some hconsume).right] at h
      exact hold h
  | _ =>
      exact hold h

theorem StoreLaw.file_step {f : FileStep} {l : Library} {cont : List FileStep}
    (hlaw : StoreLaw cfg p) (hexec : Pool.Executed p p' (Step.file f) o)
    (hlibrary : p'.shared.library = l) (hdispatched : p'.shared.dispatched = p.shared.dispatched)
    (hcreated : o.created = cont.map Step.file)
    (hdraws : f.drawsUuid = true -> x.uuid ∉ p.shared.library.names)
    (hmove : FileMove cfg x.file p.shared.library f l cont) : StoreLaw cfg p' := by
  have hk := hexec.running
  have hext := hlaw.extends_file hexec hlibrary hcreated hdraws hmove
  have hsingle := hlaw.single_file hexec hcreated hdraws hmove
  have hnew : forall {id content}, (id, content) ∈ p.shared.library.uploaded ->
      f.drawsUuid = true -> id ≠ x.uuid := by
    intro id content hmem hdraw heq
    rw [← heq] at hdraws
    exact hdraws hdraw (hlaw.drawn hmem)
  subst hlibrary
  refine ⟨fun h => hlaw.paths_file rfl hext hdraws hmove h, hsingle, ?_,
    fun h => hlaw.rows_file hk rfl hmove hext h, ?_, ?_,
    fun h hstatus hcomplete => hlaw.served_file hk hmove h hstatus hcomplete, ?_⟩
  · intro j hj
    rcases hlaw.pending_other hexec hsingle hj with hmade | ⟨hold, hother⟩
    · rw [hcreated] at hmade
      rcases List.mem_map.mp hmade with ⟨step, hstep, rfl⟩
      exact hlaw.fit_created hexec rfl hcreated hdraws hmove hext hstep
    · exact (hlaw.fit hold).step hext hother
  · intro id content content' h h'
    rcases hmove.uploaded with hsame | ⟨hdraw, _, c, hcons⟩
    · rw [hsame] at h h'
      exact hlaw.uploads h h'
    · rw [hcons] at h h'
      rcases List.mem_cons.mp h with heq | hold
      · cases heq
        rcases List.mem_cons.mp h' with heq' | hold'
        · cases heq'
          rfl
        · exact absurd rfl (hnew hold' hdraw)
      · rcases List.mem_cons.mp h' with heq' | hold'
        · cases heq'
          exact absurd rfl (hnew hold hdraw)
        · exact hlaw.uploads hold hold'
  · intro id content h
    rcases hmove.uploaded with hsame | ⟨_, hname, c, hcons⟩
    · rw [hsame] at h
      exact hext.names (hlaw.drawn h)
    · rw [hcons] at h
      rcases List.mem_cons.mp h with heq | hold
      · cases heq
        exact hname
      · exact hext.names (hlaw.drawn hold)
  · intro id caller d h
    rw [hdispatched] at h
    rcases hlaw.deployed h with ⟨content, hdescribes⟩
    exact ⟨content, hdescribes.step hext⟩

/-!
## Steps of the handlers and of the server
-/

/-- All but the tokens. -/
structure SameFiles (l l' : Library) : Prop where
  disk : l'.disk = l.disk
  names : l'.names = l.names
  uploaded : l'.uploaded = l.uploaded
  files : l'.files = l.files
  served : l'.served = l.served

theorem HandlerMove.sameFiles {x : Input} {s t : Service} {h : HandlerStep} {cont : List Step}
    (hmove : HandlerMove cfg x s h t cont) : SameFiles s.library t.library := by
  cases hmove with
  | tokenCreated hcreate =>
      rw [Library.createDownloadToken_some hcreate]
      exact ⟨rfl, rfl, rfl, rfl, rfl⟩
  | _ =>
      exact ⟨rfl, rfl, rfl, rfl, rfl⟩

theorem extends_other (hexec : Pool.Executed p p' k o)
    (hsame : SameFiles p.shared.library p'.shared.library)
    (hcreated : forall j, j ∈ o.created -> forall fd, writes fd j = false) :
    Extends cfg p p' k where
  idle := idle_of_pending hexec.running
  names := by
    rw [hsame.names]
    exact id
  uploaded := by
    rw [hsame.uploaded]
    exact id
  lookup := by
    intro path fd _ hlookup
    rw [hsame.disk] at hlookup
    exact hlookup
  made := by
    rw [hsame.disk]
    exact id
  contents := by
    intro fd _ _
    rw [hsame.disk]
  quiet := fun _ _ => quiet_of_created hexec fun j hj => hcreated j hj _

theorem StoreLaw.other_step (hlaw : StoreLaw cfg p) (hexec : Pool.Executed p p' k o)
    (hk : forall fd, writes fd k = false)
    (hsame : SameFiles p.shared.library p'.shared.library)
    (hcreated : forall j, j ∈ o.created ->
      (forall fd, writes fd j = false) ∧ Fit cfg p j)
    (hdeployed : forall id caller d, (id, Origin.deploy caller d) ∈ p'.shared.dispatched ->
      exists content, Describes cfg p.shared.library d.file content) : StoreLaw cfg p' := by
  have hext : Extends cfg p p' k :=
    extends_other hexec hsame fun j hj => (hcreated j hj).left
  refine ⟨?_, ?_, ?_, ?_, ?_, ?_, ?_, ?_⟩
  · intro path fd h
    rw [hsame.disk] at h ⊢
    rcases hlaw.paths h with ⟨hmade, hreserved⟩
    exact ⟨hmade, hreserved.step hext⟩
  · intro fd
    refine Nat.le_trans ?_ (hlaw.single fd)
    exact quiet_of_created hexec fun j hj => (hcreated j hj).left fd
  · intro j hj
    rcases hexec.pending hj with hnew | hold
    · refine (hcreated j hnew).right.step hext ?_
      exact fun fd _ => hk fd
    · exact (hlaw.fit hold).step hext fun fd _ => hk fd
  · intro f hf
    rw [hsame.files] at hf
    exact (hlaw.rows hf).step hext
  · rw [hsame.uploaded]
    exact hlaw.uploads
  · rw [hsame.uploaded, hsame.names]
    exact hlaw.drawn
  · rw [hsame.uploaded, hsame.served]
    exact hlaw.served
  · intro id caller d h
    rcases hdeployed id caller d h with ⟨content, hdescribes⟩
    exact ⟨content, hdescribes.step hext⟩

theorem findById_mem {l : Library} {tenantId fileId : String} {f : FileRow}
    (h : l.findById tenantId fileId = some (some f)) : f ∈ l.files := by
  unfold Library.findById at h
  split at h
  · rw [Option.some.injEq] at h
    exact List.mem_of_find?_eq_some h
  · cases h

/-- A handler goes on with a row that it has found. -/
theorem StoreLaw.fit_handler {h : HandlerStep} {t : Service} {cont : List Step}
    (hlaw : StoreLaw cfg p) (hk : p.Pending (Step.handler h))
    (hmove : HandlerMove cfg x p.shared h t cont) {j : Step} (hj : j ∈ cont) :
    (forall fd, writes fd j = false) ∧ Fit cfg p j := by
  cases hmove with
  | refused | idle =>
      cases hj
  | bulkCreated | bulkInstalled | resolved =>
      rcases List.mem_map.mp hj with ⟨id, _, rfl⟩
      exact ⟨fun _ => rfl, trivial⟩
  | fileFound hfound =>
      cases List.mem_singleton.mp hj
      exact ⟨fun _ => rfl, hlaw.rows (findById_mem hfound)⟩
  | tokenCreated _ =>
      cases List.mem_singleton.mp hj
      rcases hlaw.fit hk with ⟨content, hdescribes, _⟩
      exact ⟨fun _ => rfl, content, hdescribes⟩
  | _ =>
      cases List.mem_singleton.mp hj
      exact ⟨fun _ => rfl, trivial⟩

theorem StoreLaw.step (hlaw : StoreLaw cfg p)
    (hperforms : Performs cfg x p.shared k o.shared o.created)
    (hexec : Pool.Executed p p' k o) : StoreLaw cfg p' := by
  have hshared := hexec.shared
  generalize o.shared = t at hshared hperforms
  generalize hcreated : o.created = created at hperforms
  have hcore : forall {o' : Outcome Backend.Server Backend.Instr} {j : Step},
      j ∈ o'.created.map Step.core -> (forall fd, writes fd j = false) ∧ Fit cfg p j := by
    intro o' j hj
    rcases List.mem_map.mp hj with ⟨i, _, rfl⟩
    exact ⟨fun _ => rfl, trivial⟩
  cases hperforms with
  | core hperform =>
      refine hlaw.other_step hexec (fun _ => rfl) ?_ ?_ ?_
      · rw [hshared]
        exact ⟨rfl, rfl, rfl, rfl, rfl⟩
      · intro j hj
        rw [hcreated] at hj
        exact hcore hj
      · intro id caller d h
        rw [hshared] at h
        exact hlaw.deployed h
  | insert hperform =>
      refine hlaw.other_step hexec (fun _ => rfl) ?_ ?_ ?_
      · rw [hshared]
        exact ⟨rfl, rfl, rfl, rfl, rfl⟩
      · intro j hj
        rw [hcreated] at hj
        exact hcore hj
      · intro id caller d h
        rw [hshared] at h
        simp only [Service.dispatch] at h
        split at h
        · rcases List.mem_cons.mp h with heq | hold
          · cases heq
            exact hlaw.fit hexec.running
          · exact hlaw.deployed hold
        · exact hlaw.deployed h
  | handler _ hmove =>
      refine hlaw.other_step hexec (fun _ => rfl) ?_ ?_ ?_
      · rw [hshared]
        exact hmove.sameFiles
      · intro j hj
        rw [hcreated] at hj
        exact hlaw.fit_handler hexec.running hmove hj
      · intro id caller d h
        rw [hshared, hmove.frame.right] at h
        exact hlaw.deployed h
  | file hdraws hmove =>
      refine hlaw.file_step hexec ?_ ?_ hcreated hdraws hmove
      · rw [hshared]
      · rw [hshared]

/-- A request starts with steps that know no files. -/
theorem fit_entry {r : Request} {j : Step} (hj : j ∈ entry r) :
    (forall fd, writes fd j = false) ∧ forall q, Fit cfg q j := by
  cases r with
  | server r =>
      simp only [entry] at hj
      split at hj
      · cases hj
      · rcases List.mem_map.mp hj with ⟨i, _, rfl⟩
        exact ⟨fun _ => rfl, fun _ => trivial⟩
  | _ =>
      cases List.mem_singleton.mp hj
      exact ⟨fun _ => rfl, fun _ => trivial⟩

theorem StoreLaw.start {r : Request} (hlaw : StoreLaw cfg p)
    (hstep : Pool.Started p p' (entry r)) : StoreLaw cfg p' := by
  have hshared := hstep.shared
  have hentry : forall j, j ∈ entry r -> (forall fd, writes fd j = false) ∧
      forall q, Fit cfg q j := fun j hj => fit_entry hj
  have hcount : forall fd, Pool.pendingCount (writes fd) p' =
      Pool.pendingCount (writes fd) p := by
    intro fd
    have hnone : (entry r).countP (writes fd) = 0 := by
      apply List.countP_eq_zero.mpr
      intro j hj
      rw [(hentry j hj).left fd]
      exact Bool.false_ne_true
    rw [hstep.count, hnone]
    rfl
  -- as if a step had been executed that does nothing
  have hext : Extends cfg p p' (Step.file (FileStep.removeFile "")) := by
    refine ⟨fun _ => rfl, ?_, ?_, ?_, ?_, ?_, fun _ _ => Nat.le_of_eq (hcount _)⟩
    · rw [hshared]
      exact id
    · rw [hshared]
      exact id
    · rw [hshared]
      exact fun _ h => h
    · rw [hshared]
      exact id
    · intro fd _ _
      rw [hshared]
  refine ⟨?_, ?_, ?_, ?_, ?_, ?_, ?_, ?_⟩
  · rw [hshared]
    exact hlaw.paths
  · intro fd
    rw [hcount]
    exact hlaw.single fd
  · intro j hj
    rcases hstep.pending hj with hnew | hold
    · exact (hentry j hnew).right p'
    · exact (hlaw.fit hold).step hext fun _ _ => rfl
  · intro f hf
    rw [hshared] at hf
    exact (hlaw.rows hf).step hext
  · rw [hshared]
    exact hlaw.uploads
  · rw [hshared]
    exact hlaw.drawn
  · rw [hshared]
    exact hlaw.served
  · rw [hshared]
    exact hlaw.deployed

end Steps

/-!
## A library at rest
-/

/-- What an earlier process has left: the rows describe what is stored under their
paths. -/
structure Library.Stored (cfg : FileConfig) (l : Library) : Prop where
  paths : forall {path fd}, (path, fd) ∈ l.disk.names ->
    fd < l.disk.inodes.length ∧ Reserved cfg l path
  rows : forall {f}, f ∈ l.files -> exists content, Describes cfg l f content ∧
    Reserved cfg l f.storagePath ∧
    forall fd, l.disk.lookup f.storagePath = some fd -> l.disk.contents fd = content
  uploads : forall {id content content'}, (id, content) ∈ l.uploaded ->
    (id, content') ∈ l.uploaded -> content' = content
  drawn : forall {id content}, (id, content) ∈ l.uploaded -> id ∈ l.names
  served : forall {r}, r ∈ l.served -> r.status = 200 -> r.complete = true ->
    (r.fileId, r.body) ∈ l.uploaded

/-- The library is at rest between two processes. -/
theorem StoreLaw.stored {cfg : FileConfig} {p : State} (hlaw : StoreLaw cfg p) :
    p.shared.library.Stored cfg where
  paths := hlaw.paths
  rows := by
    intro f hf
    rcases hlaw.rows hf with ⟨content, hdescribes, hreserved, hall⟩
    exact ⟨content, hdescribes, hreserved, fun fd hlookup => (hall fd hlookup).content⟩
  uploads := hlaw.uploads
  drawn := hlaw.drawn
  served := hlaw.served

theorem storeLaw_boot {cfg : FileConfig} {server : Backend.Server} {library : Library}
    (hstored : library.Stored cfg) : StoreLaw cfg (boot server library) where
  paths := hstored.paths
  single := fun _ => Nat.zero_le 1
  fit := fun hk => absurd hk boot_no_pending
  rows := by
    intro f hf
    rcases hstored.rows hf with ⟨content, hdescribes, hreserved, hall⟩
    refine ⟨content, hdescribes, hreserved, ?_⟩
    intro fd hlookup
    exact ⟨(hstored.paths (Disk.lookup_mem hlookup)).left, hall fd hlookup, rfl⟩
  uploads := hstored.uploads
  drawn := hstored.drawn
  served := hstored.served
  deployed := fun h => absurd h List.not_mem_nil

end Api
end LeoOne
