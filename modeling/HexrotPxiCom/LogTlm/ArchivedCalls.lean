import HexrotPxiCom.LogTlm.Archive

/-!
# The calls of the log in the directory

What the calls of the log do to the file is regular: it is only ever given a filled buffer that
fits into a file.
-/

namespace HexrotPxiCom.LogTlm

set_option autoImplicit false

open State

universe u
variable {ρ : Type u}

/-- The state of the log beside the directory and its archive. -/
structure Logs (n : Int) (size : Nat) (names : String → Prop) (s : State ρ) (a : Archive ρ) :
    Prop where
  sound : Sound s
  allocated : s.Allocated n size
  shows : Shows names s.file a.log
  kept : Archive.Kept s.file a

section
variable {n : Int} {size : Nat} {names : String → Prop} {s t : State ρ} {a : Archive ρ}

/-- No `fclose` of a flush fails, and a full buffer has room in the log. -/
def State.Keeps (s : State ρ) (io : Stdio) : Prop :=
  io.Closes ∧ (io.Renames → s.file.pFile ≠ none → s.file.CanNumber s.countBufferMax)

/-- A call from `s` to `t`: the archive follows, and `filename` is the only new name. -/
def Follows (n : Int) (size : Nat) (names : String → Prop) (new : String → Prop) (a : Archive ρ)
    (t : State ρ) : Prop :=
  ∃ b, Runs.Reach Archive.step (Archive.Regular names) b a ∧ Logs n size names t b ∧
    ∀ c ∈ b.opened, new c ∨ c ∈ a.opened

theorem Logs.stays (h : Logs n size names s a) (new : String → Prop) :
    Follows n size names new a s :=
  ⟨a, .refl, h, fun _ hc => Or.inr hc⟩

theorem Logs.flush (hsep : Separated names) (h : Logs n size names s a) {env : Env}
    (hkeeps : s.Keeps env.stdio) (new : String → Prop) :
    Follows n size names new a (s.flush env).2 := by
  have hsound := h.sound.flush env
  unfold State.flush at hsound ⊢
  by_cases hidle : s.file.pFile = none ∨ s.pBufferCurrent = none
  · rw [if_pos hidle]
    exact h.stays new
  rw [if_neg hidle, h.sound.noThread, Bool.false_and, if_neg Bool.false_ne_true] at hsound ⊢
  obtain ⟨hfile, hbuffer⟩ := not_or.mp hidle
  obtain ⟨hnonneg, hle⟩ := h.sound.counted hbuffer
  have hmax := h.sound.fileMax hfile hbuffer
  obtain ⟨p, hp⟩ := Option.ne_none_iff_exists'.mp hbuffer
  have hp1 := h.sound.current p hp
  obtain ⟨hfit, q, -, -, hq, -, hlength, -⟩ := h.allocated.both (by simp [hp1])
  have hpq : p = q := Option.some.inj (hp1.symm.trans hq)
  have hn := h.allocated.countBufferMax
  have hcells : s.countBufferCurrent ≤ (s.cellsAt s.pBufferCurrent).length := by
    rw [hp, State.cellsAt_some, hpq, hlength, ← hn]
    exact hle
  have hsize : 0 < s.sizeElementInBuffer := by
    rw [h.allocated.sizeElement]
    exact h.allocated.size_pos
  have hbytes : s.countBufferCurrent * s.sizeElementInBuffer < sizeTRange := by
    rw [h.allocated.sizeElement]
    rw [hn] at hle
    exact mul_lt_sizeTRange hle hfit
  have hregular : a.Regular names (.flushToFile env.stdio s.sizeElementInBuffer
      (s.cellsAt s.pBufferCurrent) s.countBufferCurrent) := by
    refine Or.inr ⟨hkeeps.1, fun hrenames => ?_, hnonneg, ?_, hcells, hsize, hbytes⟩
    · exact h.shows.canNumber_iff.mpr ((hkeeps.2 hrenames hfile).mono hle)
    · rw [h.shows.countFileMax]
      exact Int.le_trans hle hmax
  obtain ⟨hshows, hkept⟩ := Archive.kept_step hsep h.shows h.kept hregular rfl
  have hallocated : Allocated n size { s with
      file := s.file.flushToFile env.stdio s.sizeElementInBuffer (s.cellsAt s.pBufferCurrent)
        s.countBufferCurrent
      countBufferCurrent := 0 } :=
    ⟨h.allocated.count_pos, h.allocated.size_pos, hn, h.allocated.sizeElement, h.allocated.both⟩
  exact ⟨_, .head hregular rfl .refl, ⟨hsound, hallocated, hshows, hkept⟩, fun _ hc => Or.inr hc⟩

theorem Logs.write (hsep : Separated names) (h : Logs n size names s a) {env : Env}
    (hkeeps : s.Keeps env.stdio) (r : ρ) (new : String → Prop) :
    Follows n size names new a (s.write env r).2 := by
  unfold State.write
  by_cases hidle : s.pBufferCurrent = none ∨ s.file.pFile = none
  · rw [if_pos hidle]
    exact h.stays new
  rw [if_neg hidle]
  obtain ⟨hnonneg, -⟩ := h.sound.counted (not_or.mp hidle).1
  dsimp only
  generalize hcopy : (if s.countBufferCurrent < s.countBufferMax then
    { s.copyRecord r with countBufferCurrent := s.countBufferCurrent + 1 } else s) = u
  have hu : Logs n size names u a ∧ u.Keeps env.stdio := by
    rw [← hcopy]
    split
    · rename_i hlt
      refine ⟨⟨h.sound.copyRecord r hnonneg hlt, h.allocated.copyRecord r, ?_, ?_⟩, ?_⟩
      · simpa using h.shows
      · simpa using h.kept
      · simpa [State.Keeps] using hkeeps
    · exact ⟨h, hkeeps⟩
  split
  · exact hu.1.stays new
  · rw [hu.1.sound.noThread]
    exact hu.1.flush hsep hu.2 new

/-- A call that is refused by the checks of `logTlm_open`, and one that is not. -/
theorem openLog_file (s : State ρ) (env : Env) (filename : String) (recordPerFile : Int) :
    (s.openLog env filename recordPerFile).2 = s ∨ (0 < recordPerFile ∧
      (s.openLog env filename recordPerFile).2.file =
        (s.file.openFile env.stdio filename recordPerFile).2) := by
  unfold State.openLog
  by_cases hcount : recordPerFile ≤ 0 ∨ recordPerFile < s.countBufferMax
  · rw [if_pos hcount]
    exact Or.inl rfl
  rw [if_neg hcount]
  by_cases hflushing : s.isFlushing env.tryLock = true
  · rw [if_pos hflushing]
    exact Or.inl rfl
  rw [if_neg hflushing]
  refine Or.inr ⟨by omega, ?_⟩
  unfold State.close LogFile.openFile
  dsimp only
  split
  · rfl
  · split
    · rfl
    · rfl

theorem openLog_allocated (h : s.Allocated n size) (env : Env) (filename : String)
    (recordPerFile : Int) : (s.openLog env filename recordPerFile).2.Allocated n size := by
  by_cases hok : (s.openLog env filename recordPerFile).1 = 0
  · have hsplit : s.openLog env filename recordPerFile =
        (0, (s.openLog env filename recordPerFile).2) := Prod.ext hok rfl
    obtain ⟨-, -, heq⟩ := State.openLog_cases hsplit
    rw [heq]
    exact ⟨h.count_pos, h.size_pos, h.countBufferMax, h.sizeElement, h.both⟩
  · obtain ⟨file, heq, -⟩ := Sound.openLog_refused hok
    rw [heq]
    exact ⟨h.count_pos, h.size_pos, h.countBufferMax, h.sizeElement, h.both⟩

theorem Logs.openLog (hsep : Separated names) (h : Logs n size names s a) {env : Env}
    (hfclose : env.stdio.fclose = .done) {filename : String} (hname : names filename)
    (hnew : filename ∉ a.opened) (recordPerFile : Int) :
    Follows n size names (· = filename) a (s.openLog env filename recordPerFile).2 := by
  rcases openLog_file s env filename recordPerFile with hsame | ⟨hpos, hfile⟩
  · rw [hsame]
    exact h.stays _
  have hsound := h.sound.openLog env filename recordPerFile
  have hallocated := openLog_allocated h.allocated env filename recordPerFile
  have hregular : a.Regular names (.openFile env.stdio filename recordPerFile) :=
    ⟨hname, hnew, hpos, hfclose⟩
  have hstep {b : Archive ρ} (hb : a.step (.openFile env.stdio filename recordPerFile) = some b) :
      Logs n size names (s.openLog env filename recordPerFile).2 b := by
    obtain ⟨hshows, hkept⟩ := Archive.kept_step hsep h.shows h.kept hregular hb
    exact ⟨hsound, hallocated, hfile ▸ hshows, hfile ▸ hkept⟩
  by_cases hdone : (a.log.openFile env.stdio filename recordPerFile).1 = 0
  · refine ⟨_, .head hregular (if_pos hdone) .refl, hstep (if_pos hdone), ?_⟩
    intro c hc
    exact List.mem_cons.mp hc
  · exact ⟨_, .head hregular (if_neg hdone) .refl, hstep (if_neg hdone), fun _ hc => Or.inr hc⟩

theorem Logs.close (hsep : Separated names) (h : Logs n size names s a) (new : String → Prop) :
    Follows n size names new a (s.close .done).2 := by
  have hregular : a.Regular names (.close .done) := rfl
  refine ⟨_, .head hregular rfl .refl, ⟨?_, ?_, ?_, ?_⟩, fun _ hc => Or.inr hc⟩
  · exact h.sound.withFile (Or.inl (LogFile.close_pFile _))
  · exact ⟨h.allocated.count_pos, h.allocated.size_pos, h.allocated.countBufferMax,
      h.allocated.sizeElement, h.allocated.both⟩
  · exact (h.shows.close hsep .done).2
  · exact Archive.kept_close h.kept _

end

/-- The buffers stay, and the names that are opened, and no call loses records. -/
def Uses (names : String → Prop) (s : State ρ) : LogCall ρ → Prop
  | .createBuffer .. | .freeBuffer => False
  | .openLog env filename _ => names filename ∧ env.stdio.fclose = .done
  | .write env _ | .flush env => s.Keeps env.stdio
  | .close fclose => fclose = .done

def opens (calls : List (LogCall ρ)) : List String :=
  calls.filterMap fun
    | .openLog _ filename _ => some filename
    | _ => none

section
variable [Inhabited ρ] {n : Int} {size : Nat} {names : String → Prop} {s t : State ρ}
  {a : Archive ρ}

theorem Logs.after (hsep : Separated names) (h : Logs n size names s a) {c : LogCall ρ}
    (huses : Uses names s c) (hnew : ∀ b ∈ opens [c], b ∉ a.opened) :
    Follows n size names (· ∈ opens [c]) a (s.after c) := by
  cases c with
  | createBuffer | freeBuffer => exact huses.elim
  | openLog env filename recordPerFile =>
    have hopens : opens [LogCall.openLog (ρ := ρ) env filename recordPerFile] = [filename] := rfl
    simp only [hopens, List.mem_singleton] at hnew ⊢
    exact h.openLog hsep huses.2 huses.1 (hnew filename rfl) recordPerFile
  | write env r => exact h.write hsep huses r _
  | flush env => exact h.flush hsep huses _
  | close fclose =>
    cases huses
    exact h.close hsep _

/-- Over every sequence of calls that opens each name once. -/
theorem Logs.run (hsep : Separated names) (h : Logs n size names s a) {calls : List (LogCall ρ)}
    (huses : Runs.Guarded State.step (Uses names) s calls) (honce : (opens calls).Nodup)
    (hnew : ∀ b ∈ opens calls, b ∉ a.opened) (hrun : Runs.run State.step s calls = some t) :
    ∃ b, Runs.Reach Archive.step (Archive.Regular names) b a ∧ Logs n size names t b := by
  induction calls generalizing s a with
  | nil =>
    cases hrun
    exact ⟨a, .refl, h⟩
  | cons c calls ih =>
    obtain ⟨u, hu, hrun⟩ := Runs.run_cons_eq_some.mp hrun
    obtain ⟨hfirst, huses⟩ := huses.cons_of_step hu
    cases hu
    have hsplit : opens (c :: calls) = opens [c] ++ opens calls := List.filterMap_append
      (l := [c])
    rw [hsplit, List.nodup_append] at honce
    obtain ⟨-, honce, hapart⟩ := honce
    rw [hsplit] at hnew
    obtain ⟨b, hreach, hb, hopened⟩ := h.after hsep hfirst
      fun x hx => hnew x (List.mem_append_left _ hx)
    obtain ⟨d, hreach', hd⟩ := ih hb huses honce
      (fun x hx hmem => by
        rcases hopened x hmem with hfirst | hold
        · exact hapart x hfirst x hx rfl
        · exact hnew x (List.mem_append_right _ hx) hold) hrun
    exact ⟨d, hreach.trans hreach', hd⟩

/-- The calls of the log leave the directory of the model by names, in which every session can be
read back. -/
theorem calls_archived {s₀ s₁ : State ρ} {alloc : Alloc} {calls : List (LogCall ρ)}
    (hsep : Separated names) (hcreate : s₀.createBuffer alloc n size = (0, s₁))
    (hstart : Sound s₁) (hclosed : s₁.file.pFile = none)
    (huses : Runs.Guarded State.step (Uses names) s₁ calls)
    (honce : (opens calls).Nodup) (hrun : Runs.run State.step s₁ calls = some t)
    {log : PathLog ρ} (hlog : Shows names s₁.file log) :
    ∃ a : Archive ρ, Shows names t.file a.log ∧ a.Whole := by
  have hlogs : Logs n size names s₁ (Archive.start log) :=
    ⟨hstart, (State.createBuffer_allocated hcreate).1, hlog, Archive.start_kept hlog hclosed⟩
  obtain ⟨a, hreach, hlogs'⟩ := hlogs.run hsep huses honce
    (fun _ _ hmem => absurd hmem List.not_mem_nil) hrun
  obtain ⟨fileCalls, hguard, hrun'⟩ := hreach.run
  refine ⟨a, hlogs'.shows, ?_⟩
  exact Archive.whole_of_separated hsep (hlog.pFile_none_iff.mpr hclosed) hguard hrun'

end

end HexrotPxiCom.LogTlm
