import HexrotPxiCom.LogTlm.File

/-!
# What one flush does to the log files

With the file open, `logTlm_flushToFile` of `1 .. countFileMax` records either appends
exactly these records to the concatenation of the log files, or leaves the file closed.
-/

namespace HexrotPxiCom.LogTlm.LogFile

set_option autoImplicit false

universe u
variable {ρ : Type u} {f : LogFile ρ}

/-- The file is open, the current file holds `countFile` records with room for another
one, and every rotated file is full. -/
structure Open (f : LogFile ρ) : Prop where
  pFile : f.pFile = some f.current
  count_nonneg : 0 ≤ f.countFile
  count_lt : f.countFile < f.countFileMax
  rotating_nonneg : 0 ≤ f.countRotatingFile
  current_length : ((f.contents f.current).length : Int) = f.countFile
  rotated_length : ∀ i : Nat, (i : Int) < f.countRotatingFile →
    ((f.contents (f.rotated i)).length : Int) = f.countFileMax

/-- `countRotatingFile` counts the file that is rotated next. -/
def HasNumber (f : LogFile ρ) : Prop := 0 ≤ f.countRotatingFile ∧ f.countRotatingFile < intMax

instance (f : LogFile ρ) : Decidable f.HasNumber := inferInstanceAs (Decidable (_ ∧ _))

/-- The number of records in an open log. -/
def total (f : LogFile ρ) : Int := f.countRotatingFile * f.countFileMax + f.countFile

/-- The rotations that `n` more records bring about do not take `countRotatingFile` beyond the
largest `int`. -/
def CanNumber (n : Int) (f : LogFile ρ) : Prop := f.total + n < 2 ^ 31 * f.countFileMax

instance (n : Int) (f : LogFile ρ) : Decidable (f.CanNumber n) :=
  inferInstanceAs (Decidable (_ < _))

theorem CanNumber.mono {m n : Int} (h : f.CanNumber n) (hmn : m ≤ n) : f.CanNumber m := by
  unfold CanNumber at h ⊢
  omega

/-- The flush that fills the current file finds a number for it. -/
theorem CanNumber.hasNumber {n : Int} (h : f.CanNumber n) (hf : f.Open)
    (hfill : f.countFileMax - f.countFile ≤ n) : f.HasNumber := by
  have hnonneg := hf.count_nonneg
  have hlt := hf.count_lt
  have hsucc : (f.countRotatingFile + 1) * f.countFileMax < 2 ^ 31 * f.countFileMax := by
    unfold CanNumber total at h
    rw [Int.add_mul, Int.one_mul]
    omega
  have hcount := Int.lt_of_mul_lt_mul_right hsucc (by omega)
  refine ⟨hf.rotating_nonneg, ?_⟩
  unfold intMax
  omega

/-- The state of the file after a successful `logTlm_rotateFile`. -/
def rotateTo (f : LogFile ρ) : LogFile ρ :=
  LogFile.fopen { (f.close .done).2 with
    disk := (f.close .done).2.renameCurrent
    countRotatingFile := intSucc (f.close .done).2.countRotatingFile }

theorem close_pFile (r : CloseResult) : (f.close r).2.pFile = none := by
  unfold close
  split <;> simp_all

@[simp] theorem close_filename (r : CloseResult) : (f.close r).2.filename = f.filename := by
  unfold close
  split <;> rfl

@[simp] theorem close_countRotatingFile (r : CloseResult) :
    (f.close r).2.countRotatingFile = f.countRotatingFile := by
  unfold close
  split <;> rfl

@[simp] theorem close_countFileMax (r : CloseResult) :
    (f.close r).2.countFileMax = f.countFileMax := by
  unfold close
  split <;> rfl

@[simp] theorem close_countFile (r : CloseResult) : (f.close r).2.countFile = f.countFile := by
  unfold close
  split <;> rfl

theorem close_done_contents (n : FileName) : (f.close .done).2.contents n = f.contents n := by
  cases hf : f.pFile with
  | none => simp [close, contents, hf]
  | some m =>
    by_cases hmn : m = n
    · subst hmn
      simp [close, contents, hf, CloseResult.written]
    · have hnm : n ≠ m := fun h => hmn h.symm
      simp [close, contents, hf, hmn, hnm]

theorem writeToFile_cases (f : LogFile ρ) (r : WriteResult) (c : CloseResult) {size : Nat}
    (rs : List ρ) (hsize : size ≠ 0) :
    (r = .full ∧ f.writeToFile r c size rs = (0, f.append rs)) ∨
    (r ≠ .full ∧ (f.writeToFile r c size rs).1 = -1 ∧
      (f.writeToFile r c size rs).2.pFile = none) := by
  cases r with
  | full => simp [writeToFile, fwrite, hsize]
  | short k =>
    refine Or.inr ⟨by simp, by simp [writeToFile, fwrite, hsize], ?_⟩
    simp [writeToFile, fwrite, hsize, close_pFile]

theorem writeToFile_zero (f : LogFile ρ) (r : WriteResult) (c : CloseResult) (rs : List ρ) :
    (f.writeToFile r c 0 rs).1 = -1 ∧ (f.writeToFile r c 0 rs).2.pFile = none := by
  simp [writeToFile, fwrite, close_pFile]

/-- A write is done as a whole, or the file is closed. -/
theorem writeToFile_done (f : LogFile ρ) (r : WriteResult) (c : CloseResult) (size : Nat)
    (rs : List ρ) :
    (size ≠ 0 ∧ r = .full ∧ f.writeToFile r c size rs = (0, f.append rs)) ∨
    (¬ (size ≠ 0 ∧ r = .full) ∧ (f.writeToFile r c size rs).1 = -1 ∧
      (f.writeToFile r c size rs).2.pFile = none) := by
  by_cases hsize : size = 0
  · subst hsize
    exact Or.inr ⟨fun h => h.1 rfl, writeToFile_zero f r c rs⟩
  · rcases writeToFile_cases f r c rs hsize with ⟨hr, hw⟩ | ⟨hr, hbad⟩
    · exact Or.inl ⟨hsize, hr, hw⟩
    · exact Or.inr ⟨fun h => hr h.2, hbad⟩

theorem close_status {n : FileName} (hf : f.pFile = some n) (r : CloseResult) :
    (f.close r).1 = r.status := by
  simp [close, hf]

theorem rotateFile_cases (f : LogFile ρ) (io : Stdio) {n : FileName} (hf : f.pFile = some n) :
    ((io.fclose = .done ∧ io.rename = true ∧ io.fopen = true) ∧
      f.rotateFile io = (0, f.rotateTo)) ∨
    (¬ (io.fclose = .done ∧ io.rename = true ∧ io.fopen = true) ∧
      (f.rotateFile io).1 = -1 ∧ (f.rotateFile io).2.pFile = none) := by
  have hstatus := close_status hf io.fclose
  have hclosed := close_pFile (f := f) io.fclose
  cases h1 : io.fclose with
  | failed kept =>
    rw [h1] at hstatus hclosed
    simp [rotateFile, h1, hstatus, hclosed, CloseResult.status]
  | done =>
    rw [h1] at hstatus hclosed
    cases h2 : io.rename with
    | false => simp [rotateFile, h1, h2, hstatus, hclosed, CloseResult.status]
    | true =>
      cases h3 : io.fopen with
      | false => simp [rotateFile, h1, h2, h3, hstatus, hclosed, CloseResult.status]
      | true => simp [rotateFile, h1, h2, h3, hstatus, CloseResult.status, rotateTo]

@[simp] theorem append_pFile (rs : List ρ) : (f.append rs).pFile = f.pFile := rfl

@[simp] theorem append_current (rs : List ρ) : (f.append rs).current = f.current := rfl

@[simp] theorem append_disk (rs : List ρ) : (f.append rs).disk = f.disk := rfl

@[simp] theorem append_stream (rs : List ρ) : (f.append rs).stream = f.stream ++ rs := rfl

@[simp] theorem append_filename (rs : List ρ) : (f.append rs).filename = f.filename := rfl

@[simp] theorem append_countRotatingFile (rs : List ρ) :
    (f.append rs).countRotatingFile = f.countRotatingFile := rfl

@[simp] theorem append_countFileMax (rs : List ρ) :
    (f.append rs).countFileMax = f.countFileMax := rfl

@[simp] theorem append_countFile (rs : List ρ) : (f.append rs).countFile = f.countFile := rfl

theorem append_contents_current (hf : f.pFile = some f.current) (rs : List ρ) :
    (f.append rs).contents f.current = f.contents f.current ++ rs := by
  simp [append, hf, contents]

theorem append_contents_rotated (hf : f.pFile = some f.current) (rs : List ρ) (i : Int) :
    (f.append rs).contents (f.rotated i) = f.contents (f.rotated i) := by
  simp [append, hf, contents, rotated, current]

theorem logContents_countFile (f : LogFile ρ) (c : Int) :
    LogFile.logContents { f with countFile := c } = f.logContents := rfl

theorem append_logContents (hf : f.pFile = some f.current) (rs : List ρ) :
    (f.append rs).logContents = f.logContents ++ rs := by
  have hrot : (f.append rs).rotatedContents = f.rotatedContents := by
    have hname : ∀ i, (f.append rs).rotated i = f.rotated i := fun _ => rfl
    simp only [rotatedContents, append_countRotatingFile, hname, append_contents_rotated hf]
  rw [logContents, hrot, append_current, append_contents_current hf, logContents, List.append_assoc]

section Rotate

@[simp] theorem rotateTo_countRotatingFile :
    f.rotateTo.countRotatingFile = intSucc f.countRotatingFile := by
  simp [rotateTo, LogFile.fopen]

@[simp] theorem rotateTo_countFileMax : f.rotateTo.countFileMax = f.countFileMax := by
  simp [rotateTo, LogFile.fopen]

@[simp] theorem rotateTo_filename : f.rotateTo.filename = f.filename := by
  simp [rotateTo, LogFile.fopen]

theorem rotateTo_current : f.rotateTo.current = f.current := by
  simp [current]

theorem rotateTo_rotated (i : Int) : f.rotateTo.rotated i = f.rotated i := by
  simp [rotated]

theorem rotateTo_pFile : f.rotateTo.pFile = some f.rotateTo.current := rfl

theorem rotateTo_contents_current : f.rotateTo.contents f.current = [] := by
  rw [← rotateTo_current]
  simp [rotateTo, LogFile.fopen, contents, current]

theorem rotateTo_contents_last :
    f.rotateTo.contents (f.rotated f.countRotatingFile) = f.contents f.current := by
  have hclosed := close_done_contents (f := f) f.current
  rw [contents, close_pFile] at hclosed
  rw [← hclosed]
  simp [rotateTo, LogFile.fopen, contents, renameCurrent, rotated, current]

theorem rotateTo_contents_rotated {i : Int} (hi : i ≠ f.countRotatingFile) :
    f.rotateTo.contents (f.rotated i) = f.contents (f.rotated i) := by
  have hclosed := close_done_contents (f := f) (f.rotated i)
  rw [contents, close_pFile] at hclosed
  rw [← hclosed]
  simp [rotateTo, LogFile.fopen, contents, renameCurrent, rotated, current, hi]

variable (hnumber : f.HasNumber)
include hnumber

theorem rotateTo_logContents : f.rotateTo.logContents = f.logContents := by
  have hrot : f.rotateTo.rotatedContents = f.rotatedContents ++ f.contents f.current := by
    have hcount : f.rotateTo.countRotatingFile.toNat = f.countRotatingFile.toNat + 1 := by
      have h0 := hnumber.1
      rw [rotateTo_countRotatingFile, intSucc_of_lt hnumber.2]
      omega
    have hlastNumber : ((f.countRotatingFile.toNat : Nat) : Int) = f.countRotatingFile :=
      Int.toNat_of_nonneg hnumber.1
    have hlast := rotateTo_contents_last (f := f)
    have hrest : (List.range f.countRotatingFile.toNat).map
          (fun i : Nat => f.rotateTo.contents (f.rotated i)) =
        (List.range f.countRotatingFile.toNat).map (fun i : Nat => f.contents (f.rotated i)) := by
      refine List.map_congr_left fun i hi => rotateTo_contents_rotated ?_
      have hi := List.mem_range.mp hi
      omega
    simp only [rotatedContents, hcount, rotateTo_rotated]
    rw [List.range_succ, List.flatMap_append, List.flatMap_singleton, hlastNumber, hlast]
    simp only [List.flatMap_def, hrest]
  have hcur : f.rotateTo.contents f.rotateTo.current = [] := by
    rw [rotateTo_current, rotateTo_contents_current]
  rw [logContents, hrot, hcur, List.append_nil, logContents]

/-- A rotation at the moment the current file is full. -/
theorem Open.rotate (hmax : 0 < f.countFileMax)
    (hfull : ((f.contents f.current).length : Int) = f.countFileMax)
    (hrot : ∀ i : Nat, (i : Int) < f.countRotatingFile →
      ((f.contents (f.rotated i)).length : Int) = f.countFileMax) :
    Open { f.rotateTo with countFile := 0 } where
  pFile := rfl
  count_nonneg := Int.le_refl 0
  count_lt := by simpa using hmax
  rotating_nonneg := by
    have h0 := hnumber.1
    change 0 ≤ f.rotateTo.countRotatingFile
    rw [rotateTo_countRotatingFile, intSucc_of_lt hnumber.2]
    omega
  current_length := by
    change ((f.rotateTo.contents f.rotateTo.current).length : Int) = 0
    rw [rotateTo_current, rotateTo_contents_current]
    rfl
  rotated_length := by
    intro i hi
    have hi : (i : Int) < f.rotateTo.countRotatingFile := hi
    rw [rotateTo_countRotatingFile, intSucc_of_lt hnumber.2] at hi
    change ((f.rotateTo.contents (f.rotateTo.rotated i)).length : Int) = f.rotateTo.countFileMax
    rw [rotateTo_rotated, rotateTo_countFileMax]
    by_cases he : (i : Int) = f.countRotatingFile
    · rw [he, rotateTo_contents_last]
      exact hfull
    · rw [rotateTo_contents_rotated he]
      exact hrot i (by omega)

end Rotate

theorem Open.append (hf : f.Open) (rs : List ρ) (hlt : f.countFile + rs.length < f.countFileMax) :
    Open { f.append rs with countFile := f.countFile + rs.length } where
  pFile := hf.pFile
  count_nonneg := by
    have := hf.count_nonneg
    change 0 ≤ f.countFile + (rs.length : Int)
    omega
  count_lt := hlt
  rotating_nonneg := hf.rotating_nonneg
  current_length := by
    have hc := hf.current_length
    change (((f.append rs).contents f.current).length : Int) = _
    rw [append_contents_current hf.pFile rs, List.length_append]
    push_cast
    omega
  rotated_length := by
    intro i hi
    change (((f.append rs).contents (f.rotated i)).length : Int) = _
    rw [append_contents_rotated hf.pFile rs i]
    exact hf.rotated_length i hi

/-- The records that fill the current file are in the rotated one. -/
theorem append_rotateTo_logContents (hf : f.pFile = some f.current) (hnumber : f.HasNumber)
    (rs : List ρ) : (f.append rs).rotateTo.logContents = f.logContents ++ rs := by
  rw [← append_logContents hf]
  exact rotateTo_logContents (f := f.append rs) hnumber

theorem Open.rotate_append (hf : f.Open) (rs : List ρ) (hnumber : f.HasNumber)
    (hfull : f.countFile + rs.length = f.countFileMax) :
    Open { (f.append rs).rotateTo with countFile := 0 } := by
  have hcur := hf.current_length
  have hmax : 0 < f.countFileMax := Int.lt_of_le_of_lt hf.count_nonneg hf.count_lt
  refine Open.rotate (f := f.append rs) hnumber hmax ?_ ?_
  · change (((f.append rs).contents f.current).length : Int) = f.countFileMax
    rw [append_contents_current hf.pFile, List.length_append]
    omega
  · intro i hi
    change (((f.append rs).contents (f.rotated i)).length : Int) = f.countFileMax
    rw [append_contents_rotated hf.pFile]
    exact hf.rotated_length i hi

section Flush
variable (io : Stdio) (size : Nat) (pBuffer : List ρ) (n : Int)

/-- A flush that writes all the space there is fills the current file. -/
theorem numToFile_fills (f : LogFile ρ) {n : Int} (h : f.countFileMax - f.countFile =
      if decide (n ≤ f.countFileMax - f.countFile) = true then n
      else f.countFileMax - f.countFile) : f.countFileMax - f.countFile ≤ n := by
  split at h
  · omega
  · rename_i hmore
    have hmore : ¬ n ≤ f.countFileMax - f.countFile := fun hle => hmore (decide_eq_true hle)
    omega

/-- What a flush makes of an open file: it stops short of the rotation boundary, at it or behind
it, or the file is closed. -/
inductive Flushed (f : LogFile ρ) : LogFile ρ → Prop where
  | closed (g : LogFile ρ) (hclosed : g.pFile = none)
      (hfail : sizeT (min n (f.countFileMax - f.countFile) * size) ≠ 0 →
        (f.countFileMax - f.countFile < n →
          sizeT ((n - (f.countFileMax - f.countFile)) * size) ≠ 0) → ¬ io.Success) :
      Flushed f g
  | short (hsize : sizeT (n * size) ≠ 0) (hlt : n < f.countFileMax - f.countFile) :
      Flushed f { f.append (pBuffer.take n.toNat) with countFile := f.countFile + n }
  | boundary (hsize : sizeT (n * size) ≠ 0) (heq : n = f.countFileMax - f.countFile)
      (hio : io.Renames) :
      Flushed f { (f.append (pBuffer.take n.toNat)).rotateTo with countFile := 0 }
  | across (hgt : f.countFileMax - f.countFile < n) (hio : io.Renames) :
      Flushed f { ((f.append (pBuffer.take (f.countFileMax - f.countFile).toNat)).rotateTo).append
          ((pBuffer.drop (f.countFileMax - f.countFile).toNat).take
            (n - (f.countFileMax - f.countFile)).toNat) with
        countFile := n - (f.countFileMax - f.countFile) }

/-- A flush whose records fit into the current file. -/
theorem flushToFile_within (hf : f.pFile ≠ none) (hle : n ≤ f.countFileMax - f.countFile) :
    Flushed io size pBuffer n f (f.flushToFile io size pBuffer n) := by
  obtain ⟨name, hname⟩ := Option.ne_none_iff_exists'.mp hf
  have hmin : min n (f.countFileMax - f.countFile) = n := Int.min_eq_left hle
  rcases writeToFile_done f io.fwrite io.fcloseError (sizeT (n * size)) (pBuffer.take n.toNat)
    with ⟨hsize, hfull, hw⟩ | ⟨hr, hbad, -⟩
  · rcases Int.lt_or_eq_of_le hle with hlt | heq
    · have hne : ¬ f.countFileMax - f.countFile = n := by omega
      have hflush : f.flushToFile io size pBuffer n =
          { f.append (pBuffer.take n.toNat) with countFile := f.countFile + n } := by
        simp [flushToFile, hf, hle, hne, hw]
      rw [hflush]
      exact .short hsize hlt
    · have hopen : (f.append (pBuffer.take n.toNat)).pFile = some name := by
        rw [append_pFile, hname]
      rcases rotateFile_cases _ io hopen with ⟨hok, hrot⟩ | ⟨hfail, hrot, -⟩
      · have hflush : f.flushToFile io size pBuffer n =
            { (f.append (pBuffer.take n.toNat)).rotateTo with countFile := 0 } := by
          simp [flushToFile, hf, ← heq, hw, hrot]
        rw [hflush]
        exact .boundary hsize heq ⟨hfull, hok.1, hok.2.1⟩
      · refine .closed _ ?_ fun _ _ hs => hfail ⟨hs.2.1, hs.2.2.1, hs.2.2.2.1⟩
        simp [flushToFile, hf, ← heq, hw, hrot, close_pFile]
  · refine .closed _ ?_ ?_
    · simp [flushToFile, hf, hle, hbad, close_pFile]
    · rw [hmin]
      exact fun hsize _ hs => hr ⟨hsize, hs.1⟩

/-- A flush across the rotation boundary. -/
theorem flushToFile_across (hf : f.pFile ≠ none) (hgt : f.countFileMax - f.countFile < n) :
    Flushed io size pBuffer n f (f.flushToFile io size pBuffer n) := by
  obtain ⟨name, hname⟩ := Option.ne_none_iff_exists'.mp hf
  have hnot : ¬ n ≤ f.countFileMax - f.countFile := Int.not_le.mpr hgt
  have hmin : min n (f.countFileMax - f.countFile) = f.countFileMax - f.countFile :=
    Int.min_eq_right (Int.le_of_lt hgt)
  rcases writeToFile_done f io.fwrite io.fcloseError
    (sizeT ((f.countFileMax - f.countFile) * size))
    (pBuffer.take (f.countFileMax - f.countFile).toNat) with ⟨-, hfull, hw⟩ | ⟨hr, hbad, -⟩
  · have hopen : (f.append (pBuffer.take (f.countFileMax - f.countFile).toNat)).pFile =
        some name := by
      rw [append_pFile, hname]
    rcases rotateFile_cases _ io hopen with ⟨hok, hrot⟩ | ⟨hfail, hrot, -⟩
    · rcases writeToFile_done (f.append (pBuffer.take
          (f.countFileMax - f.countFile).toNat)).rotateTo io.fwriteLeft io.fcloseError
          (sizeT ((n - (f.countFileMax - f.countFile)) * size))
          ((pBuffer.drop (f.countFileMax - f.countFile).toNat).take
            (n - (f.countFileMax - f.countFile)).toNat) with ⟨-, -, hl⟩ | ⟨hr, hbad, -⟩
      · have hflush : f.flushToFile io size pBuffer n =
            { ((f.append (pBuffer.take (f.countFileMax - f.countFile).toNat)).rotateTo).append
                ((pBuffer.drop (f.countFileMax - f.countFile).toNat).take
                  (n - (f.countFileMax - f.countFile)).toNat) with
              countFile := n - (f.countFileMax - f.countFile) } := by
          simp [flushToFile, hf, hnot, hw, hrot, hl]
        rw [hflush]
        exact .across hgt ⟨hfull, hok.1, hok.2.1⟩
      · refine .closed _ ?_ fun _ hleft hs => hr ⟨hleft hgt, hs.2.2.2.2⟩
        simp [flushToFile, hf, hnot, hw, hrot, hbad, close_pFile]
    · refine .closed _ ?_ fun _ _ hs => hfail ⟨hs.2.1, hs.2.2.1, hs.2.2.2.1⟩
      simp [flushToFile, hf, hnot, hw, hrot, close_pFile]
  · refine .closed _ ?_ ?_
    · simp [flushToFile, hf, hnot, hbad, close_pFile]
    · rw [hmin]
      exact fun hsize _ hs => hr ⟨hsize, hs.1⟩

theorem flushToFile_flushed (hf : f.pFile ≠ none) :
    Flushed io size pBuffer n f (f.flushToFile io size pBuffer n) := by
  rcases Int.lt_or_le (f.countFileMax - f.countFile) n with hgt | hle
  · exact flushToFile_across io size pBuffer n hf hgt
  · exact flushToFile_within io size pBuffer n hf hle

/-- A flush of nothing: `fwrite` of size 0 returns 0, which is taken for an error. -/
theorem flushToFile_zero (hf : f.Open) : (f.flushToFile io size pBuffer 0).pFile = none := by
  have hroom := hf.count_lt
  have hz : sizeT (0 * size) = 0 := by
    rw [Int.zero_mul]
    rfl
  generalize hg : f.flushToFile io size pBuffer 0 = g
  have hflushed := flushToFile_flushed io size pBuffer 0 (f := f) (by simp [hf.pFile])
  rw [hg] at hflushed
  cases hflushed with
  | closed g hclosed => exact hclosed
  | short hsize | boundary hsize => exact absurd hz hsize
  | across hgt => omega

/-- What a flush of `n` records does, whatever stdio answers. -/
theorem flushToFile_cases (hf : f.Open) (h0 : 0 < n) (hmax : n ≤ f.countFileMax)
    (hlen : n ≤ pBuffer.length) (hsize : 0 < size) (hfit : n * size < sizeTRange)
    (hnumber : io.Renames → f.CanNumber n) :
    ((f.flushToFile io size pBuffer n).pFile = none ∧ ¬ io.Success) ∨
    ((f.flushToFile io size pBuffer n).Open ∧
      (f.flushToFile io size pBuffer n).logContents = f.logContents ++ pBuffer.take n.toNat ∧
      (f.flushToFile io size pBuffer n).countFileMax = f.countFileMax ∧
      (f.flushToFile io size pBuffer n).total = f.total + n) := by
  have hpos := hf.count_nonneg
  have hroom := hf.count_lt
  have hlenTake {m : Int} (hm0 : 0 ≤ m) (hm : m ≤ n) :
      ((pBuffer.take m.toNat).length : Int) = m := by
    rw [List.length_take, Nat.min_eq_left (by omega), Int.toNat_of_nonneg hm0]
  -- the rotated file holds `countFileMax` of the records
  have htotal (hlt : f.countRotatingFile < intMax) (c : Int) :
      intSucc f.countRotatingFile * f.countFileMax + c =
        f.total + (f.countFileMax - f.countFile) + c := by
    rw [intSucc_of_lt hlt, Int.add_mul, Int.one_mul, total]
    omega
  generalize hg : f.flushToFile io size pBuffer n = g
  have hflushed := flushToFile_flushed io size pBuffer n (f := f) (by simp [hf.pFile])
  rw [hg] at hflushed
  cases hflushed with
  | closed g hclosed hfail =>
    refine Or.inl ⟨hclosed, hfail ?_ fun hgt => ?_⟩
    · exact sizeT_mul_ne_zero (by omega) hsize (mul_lt_sizeTRange (by omega) hfit)
    · exact sizeT_mul_ne_zero (by omega) hsize (mul_lt_sizeTRange (by omega) hfit)
  | short _ hlt =>
    have htake := hlenTake (m := n) (by omega) (Int.le_refl n)
    have happ := hf.append (pBuffer.take n.toNat) (by omega)
    rw [htake] at happ
    refine Or.inr ⟨happ, ?_, rfl, (Int.add_assoc ..).symm⟩
    rw [logContents_countFile, append_logContents hf.pFile]
  | boundary _ heq hio =>
    have hnumber := (hnumber hio).hasNumber hf (Int.le_of_eq heq.symm)
    have htake := hlenTake (m := n) (by omega) (Int.le_refl n)
    refine Or.inr ⟨?_, ?_, rotateTo_countFileMax, ?_⟩
    · exact hf.rotate_append _ hnumber (by omega)
    · exact append_rotateTo_logContents hf.pFile hnumber _
    · simp only [total, rotateTo_countRotatingFile, rotateTo_countFileMax,
        append_countRotatingFile, append_countFileMax]
      rw [htotal hnumber.2, ← heq, total, Int.add_zero]
  | across hgt hio =>
    have hnumber := (hnumber hio).hasNumber hf (Int.le_of_lt hgt)
    have htake := hlenTake (m := f.countFileMax - f.countFile) (by omega) (by omega)
    have hopen := hf.rotate_append (pBuffer.take (f.countFileMax - f.countFile).toNat) hnumber
      (by omega)
    have hdrop : (((pBuffer.drop (f.countFileMax - f.countFile).toNat).take
        (n - (f.countFileMax - f.countFile)).toNat).length : Int) =
        n - (f.countFileMax - f.countFile) := by
      rw [List.length_take, List.length_drop]
      omega
    have happ := hopen.append ((pBuffer.drop (f.countFileMax - f.countFile).toNat).take
        (n - (f.countFileMax - f.countFile)).toNat) (by
      change 0 + _ < (f.append _).rotateTo.countFileMax
      rw [hdrop, rotateTo_countFileMax, append_countFileMax]
      omega)
    rw [hdrop, Int.zero_add] at happ
    have hsum : n.toNat = (f.countFileMax - f.countFile).toNat +
        (n - (f.countFileMax - f.countFile)).toNat := by omega
    refine Or.inr ⟨happ, ?_, rotateTo_countFileMax, ?_⟩
    · rw [logContents_countFile, append_logContents rotateTo_pFile,
        append_rotateTo_logContents hf.pFile hnumber, hsum, List.take_add, List.append_assoc]
    · simp only [total, append_countRotatingFile, append_countFileMax, rotateTo_countRotatingFile,
        rotateTo_countFileMax]
      rw [htotal hnumber.2, total]
      omega

end Flush

end HexrotPxiCom.LogTlm.LogFile
