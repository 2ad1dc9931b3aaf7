import HexrotPxiCom.Lib.Numerals
import HexrotPxiCom.Lib.Runs
import HexrotPxiCom.LogTlm.FileInvariant

/-!
# The log files by their paths

The functions of `logTlm.c` on the directory itself, where a file is what its path says. The name
of a rotated file is made of the name and a number, so it can also be a name that
`logTlm_setFilename` makes. As long as it is not, and the numbers do not run out, the files are
those of `LogFile`.
-/

namespace HexrotPxiCom.LogTlm

set_option autoImplicit false

universe u
variable {ρ : Type u}

/-- What `logTlm_getRotatedFilename` makes of a name: `sprintf` with `".%d"` and `joinStr`. -/
def FileName.path (n : FileName) : List Char :=
  match n.extension with
  | none => n.base.toList
  | some i => n.base.toList ++ '.' :: Numerals.decimal i

/-- The globals of `logTlm.c` about the file, and the files in the directory. -/
structure PathLog (ρ : Type u) where
  filename : List Char
  pFile : Option (List Char)
  stream : List ρ
  files : List Char → Option (List ρ)
  countRotatingFile : Int
  countFileMax : Int
  countFile : Int

namespace PathLog

/-- The records of a file, with those of the stream that is open on it. -/
def contents (g : PathLog ρ) (p : List Char) : List ρ :=
  (g.files p).getD [] ++ if g.pFile = some p then g.stream else []

def getRotatedFilename (g : PathLog ρ) : List Char :=
  g.filename ++ '.' :: Numerals.decimal g.countRotatingFile

def close (fclose : CloseResult) (g : PathLog ρ) : Int × PathLog ρ :=
  match g.pFile with
  | none => (0, g)
  | some p => (fclose.status, { g with
      pFile := none
      stream := []
      files := Function.update g.files p
        (some ((g.files p).getD [] ++ fclose.written g.stream)) })

def append (rs : List ρ) (g : PathLog ρ) : PathLog ρ := { g with stream := g.stream ++ rs }

def fwrite (r : WriteResult) (size : Nat) (rs : List ρ) (g : PathLog ρ) : Nat × PathLog ρ :=
  if size = 0 then (0, g)
  else match r with
    | .full => (1, g.append rs)
    | .short k => (0, g.append (rs.take k))

/-- `rename`: what has the new name is lost. -/
def rename (old new : List Char) (g : PathLog ρ) : PathLog ρ :=
  { g with files := Function.update (Function.update g.files new (g.files old)) old none }

def fopen (g : PathLog ρ) : PathLog ρ :=
  { g with
    pFile := some g.filename
    stream := []
    files := Function.update g.files g.filename (some []) }

def rotateFile (io : Stdio) (g : PathLog ρ) : Int × PathLog ρ :=
  let c := g.close io.fclose
  if c.1 ≠ 0 then (-1, c.2)
  else if !io.rename then (-1, c.2)
  else
    let h := c.2.rename c.2.filename c.2.getRotatedFilename
    let h := { h with countRotatingFile := intSucc h.countRotatingFile }
    if !io.fopen then (-1, h) else (0, h.fopen)

def writeToFile (r : WriteResult) (fclose : CloseResult) (size : Nat) (rs : List ρ)
    (g : PathLog ρ) : Int × PathLog ρ :=
  let w := g.fwrite r size rs
  if w.1 ≤ 0 then (-1, (w.2.close fclose).2) else (0, w.2)

def flushToFile (io : Stdio) (sizeElementInBuffer : Nat) (pBuffer : List ρ)
    (countBuffer : Int) (g : PathLog ρ) : PathLog ρ :=
  if g.pFile = none then g
  else
    let spaceAvailable := g.countFileMax - g.countFile
    let isSpaceEnough := decide (countBuffer ≤ spaceAvailable)
    let numToFile := if isSpaceEnough then countBuffer else spaceAvailable
    let w := g.writeToFile io.fwrite io.fcloseError (sizeT (numToFile * sizeElementInBuffer))
      (pBuffer.take numToFile.toNat)
    let r := if w.1 = 0 ∧ spaceAvailable = numToFile then w.2.rotateFile io else w
    let isRotated := decide (w.1 = 0 ∧ spaceAvailable = numToFile ∧ r.1 = 0)
    let l :=
      if !isSpaceEnough && isRotated then
        r.2.writeToFile io.fwriteLeft io.fcloseError
          (sizeT ((countBuffer - numToFile) * sizeElementInBuffer))
          ((pBuffer.drop numToFile.toNat).take (countBuffer - numToFile).toNat)
      else r
    if l.1 = -1 then (l.2.close io.fcloseError).2
    else { l.2 with
      countFile := if isRotated then countBuffer - numToFile else l.2.countFile + numToFile }

/-- `logTlm_open` behind its checks, where `filename` is what `logTlm_setFilename` makes. -/
def openFile (io : Stdio) (filename : String) (recordPerFile : Int) (g : PathLog ρ) :
    Int × PathLog ρ :=
  let c := g.close io.fclose
  if c.1 ≠ 0 then (-1, c.2)
  else
    let h := { c.2 with filename := filename.toList }
    if !io.fopen then (-1, h)
    else (0, { h.fopen with
      countFileMax := recordPerFile, countFile := 0, countRotatingFile := 0 })

end PathLog

/-- `logTlm_open` behind its checks. -/
def LogFile.openFile (io : Stdio) (filename : String) (recordPerFile : Int) (f : LogFile ρ) :
    Int × LogFile ρ :=
  let c := f.close io.fclose
  if c.1 ≠ 0 then (-1, c.2)
  else
    let g := { c.2 with filename := filename }
    if !io.fopen then (-1, g)
    else (0, { g.fopen with
      countFileMax := recordPerFile
      countFile := 0
      countRotatingFile := 0 })

/-- What the calls of the log do to the file. -/
inductive FileCall (ρ : Type u) where
  | openFile (io : Stdio) (filename : String) (recordPerFile : Int)
  | flushToFile (io : Stdio) (sizeElementInBuffer : Nat) (pBuffer : List ρ) (countBuffer : Int)
  | close (fclose : CloseResult)

def LogFile.after (f : LogFile ρ) : FileCall ρ → LogFile ρ
  | .openFile io filename recordPerFile => (f.openFile io filename recordPerFile).2
  | .flushToFile io size pBuffer countBuffer => f.flushToFile io size pBuffer countBuffer
  | .close fclose => (f.close fclose).2

def PathLog.after (g : PathLog ρ) : FileCall ρ → PathLog ρ
  | .openFile io filename recordPerFile => (g.openFile io filename recordPerFile).2
  | .flushToFile io size pBuffer countBuffer => g.flushToFile io size pBuffer countBuffer
  | .close fclose => (g.close fclose).2

namespace LogFile
variable {f : LogFile ρ}

@[simp] theorem fwrite_filename (r : WriteResult) (size : Nat) (rs : List ρ) :
    (f.fwrite r size rs).2.filename = f.filename := by
  unfold fwrite
  split
  · rfl
  · cases r <;> rfl

@[simp] theorem fwrite_countRotatingFile (r : WriteResult) (size : Nat) (rs : List ρ) :
    (f.fwrite r size rs).2.countRotatingFile = f.countRotatingFile := by
  unfold fwrite
  split
  · rfl
  · cases r <;> rfl

@[simp] theorem writeToFile_filename (r : WriteResult) (c : CloseResult) (size : Nat)
    (rs : List ρ) : (f.writeToFile r c size rs).2.filename = f.filename := by
  unfold writeToFile
  dsimp only
  split <;> simp

@[simp] theorem writeToFile_countRotatingFile (r : WriteResult) (c : CloseResult) (size : Nat)
    (rs : List ρ) : (f.writeToFile r c size rs).2.countRotatingFile = f.countRotatingFile := by
  unfold writeToFile
  dsimp only
  split <;> simp

end LogFile

/-- No name is one that a rotated file of another one gets. -/
def Separated (names : String → Prop) : Prop :=
  ∀ b c, names b → names c → ∀ i : Int, 0 ≤ i → i < intMax →
    c.toList ≠ (FileName.mk b (some i)).path

theorem FileName.path_rotated_inj {b c : String} {i j : Int}
    (h : (FileName.mk b (some i)).path = (FileName.mk c (some j)).path) : b = c ∧ i = j := by
  have hdot := Numerals.notMem_decimal (c := '.') (by decide) (by decide)
  obtain ⟨hdigits, hbase⟩ := Numerals.append_cons_inj (hdot i) (hdot j) h
  exact ⟨String.toList_inj.mp hbase, Numerals.decimal_injective hdigits⟩

/-- The file of a name, or a rotated one. -/
def FileName.Of (names : String → Prop) (n : FileName) : Prop :=
  names n.base ∧ ∀ i, n.extension = some i → 0 ≤ i ∧ i < intMax

section
variable {names : String → Prop} {f : LogFile ρ} {g : PathLog ρ}

theorem FileName.Of.current (h : names f.filename) : f.current.Of names :=
  ⟨h, fun _ hi => by cases hi⟩

theorem FileName.Of.rotated (h : names f.filename) {i : Int} (h0 : 0 ≤ i) (hlt : i < intMax) :
    (f.rotated i).Of names := by
  refine ⟨h, fun j hj => ?_⟩
  cases hj
  exact ⟨h0, hlt⟩

theorem Separated.path_inj (hsep : Separated names) {m n : FileName} (hm : m.Of names)
    (hn : n.Of names) (h : m.path = n.path) : m = n := by
  obtain ⟨b, i⟩ := m
  obtain ⟨c, j⟩ := n
  cases i with
  | none =>
    cases j with
    | none =>
      have hbase : b = c := String.toList_inj.mp h
      rw [hbase]
    | some j =>
      obtain ⟨h0, hlt⟩ := hn.2 j rfl
      exact absurd h (hsep c b hn.1 hm.1 j h0 hlt)
  | some i =>
    cases j with
    | none =>
      obtain ⟨h0, hlt⟩ := hm.2 i rfl
      exact absurd h.symm (hsep b c hm.1 hn.1 i h0 hlt)
    | some j =>
      obtain ⟨rfl, rfl⟩ := FileName.path_rotated_inj h
      rfl

/-- The files of the names are in the directory what they are in the model by names. -/
structure Shows (names : String → Prop) (f : LogFile ρ) (g : PathLog ρ) : Prop where
  filename : g.filename = f.filename.toList
  pFile : g.pFile = f.pFile.map FileName.path
  stream : g.stream = f.stream
  current : f.pFile = none ∨ f.pFile = some f.current ∧ names f.filename
  files : ∀ n : FileName, n.Of names → g.files n.path = f.disk n
  countRotatingFile : g.countRotatingFile = f.countRotatingFile
  countFileMax : g.countFileMax = f.countFileMax
  countFile : g.countFile = f.countFile

namespace Shows

theorem pFile_none_iff (h : Shows names f g) : g.pFile = none ↔ f.pFile = none := by
  rw [h.pFile, Option.map_eq_none_iff]

theorem pFile_eq_iff (hsep : Separated names) (h : Shows names f g) {n : FileName}
    (hn : n.Of names) : g.pFile = some n.path ↔ f.pFile = some n := by
  rw [h.pFile]
  rcases h.current with hnone | ⟨hopen, hname⟩
  · simp [hnone]
  · rw [hopen, Option.map_some, Option.some_inj, Option.some_inj]
    exact ⟨hsep.path_inj (.current hname) hn, congrArg _⟩

theorem contents (hsep : Separated names) (h : Shows names f g) {n : FileName}
    (hn : n.Of names) : g.contents n.path = f.contents n := by
  unfold PathLog.contents LogFile.contents
  simp only [h.files n hn, h.stream, h.pFile_eq_iff hsep hn]

theorem files_update (hsep : Separated names) {files : List Char → Option (List ρ)}
    {disk : FileName → Option (List ρ)}
    (h : ∀ n : FileName, n.Of names → files n.path = disk n) {m : FileName} (hm : m.Of names)
    (x : Option (List ρ)) (n : FileName) (hn : n.Of names) :
    Function.update files m.path x n.path = Function.update disk m x n := by
  by_cases hmn : n = m
  · subst hmn
    rw [Function.update_self, Function.update_self]
  · have hpath : n.path ≠ m.path := fun hpath => hmn (hsep.path_inj hn hm hpath)
    rw [Function.update_of_ne hpath, Function.update_of_ne hmn]
    exact h n hn

theorem close (hsep : Separated names) (h : Shows names f g) (fclose : CloseResult) :
    (g.close fclose).1 = (f.close fclose).1 ∧
      Shows names (f.close fclose).2 (g.close fclose).2 := by
  have hpFile := h.pFile
  unfold PathLog.close LogFile.close
  rcases h.current with hf | ⟨hf, hname⟩
  · rw [hf, Option.map_none] at hpFile
    simp only [hf, hpFile]
    exact ⟨trivial, h⟩
  · rw [hf, Option.map_some] at hpFile
    simp only [hf, hpFile, h.stream, h.files f.current (.current hname)]
    exact ⟨trivial, h.filename, rfl, rfl, Or.inl rfl,
      files_update hsep h.files (.current hname) _, h.countRotatingFile, h.countFileMax,
      h.countFile⟩

theorem append (h : Shows names f g) (rs : List ρ) : Shows names (f.append rs) (g.append rs) :=
  ⟨h.filename, h.pFile, congrArg (· ++ rs) h.stream, h.current, h.files, h.countRotatingFile,
    h.countFileMax, h.countFile⟩

theorem fwrite (h : Shows names f g) (r : WriteResult) (size : Nat) (rs : List ρ) :
    (g.fwrite r size rs).1 = (f.fwrite r size rs).1 ∧
      Shows names (f.fwrite r size rs).2 (g.fwrite r size rs).2 := by
  unfold PathLog.fwrite LogFile.fwrite
  by_cases hsize : size = 0
  · rw [if_pos hsize, if_pos hsize]
    exact ⟨rfl, h⟩
  · rw [if_neg hsize, if_neg hsize]
    cases r with
    | full => exact ⟨rfl, h.append rs⟩
    | short k => exact ⟨rfl, h.append (rs.take k)⟩

theorem writeToFile (hsep : Separated names) (h : Shows names f g) (r : WriteResult)
    (c : CloseResult) (size : Nat) (rs : List ρ) :
    (g.writeToFile r c size rs).1 = (f.writeToFile r c size rs).1 ∧
      Shows names (f.writeToFile r c size rs).2 (g.writeToFile r c size rs).2 := by
  obtain ⟨hret, hshows⟩ := h.fwrite r size rs
  unfold PathLog.writeToFile LogFile.writeToFile
  dsimp only
  rw [hret]
  split
  · exact ⟨rfl, (hshows.close hsep c).2⟩
  · exact ⟨rfl, hshows⟩

/-- `rename` and the new number. -/
theorem rename (hsep : Separated names) (h : Shows names f g) (hname : names f.filename)
    (hclosed : f.pFile = none) (hnumber : f.HasNumber) :
    Shows names
      { f with disk := f.renameCurrent, countRotatingFile := intSucc f.countRotatingFile }
      { g.rename g.filename g.getRotatedFilename with
        countRotatingFile := intSucc g.countRotatingFile } := by
  have hnew : g.getRotatedFilename = (f.rotated f.countRotatingFile).path := by
    rw [PathLog.getRotatedFilename, h.filename, h.countRotatingFile]
    rfl
  have hold : g.filename = f.current.path := h.filename
  refine ⟨h.filename, h.pFile, h.stream, Or.inl hclosed, ?_, ?_, h.countFileMax, h.countFile⟩
  · rw [hnew, hold]
    have hfirst := files_update hsep h.files (m := f.rotated f.countRotatingFile)
      (.rotated hname hnumber.1 hnumber.2) (f.disk f.current)
    intro n hn
    unfold PathLog.rename LogFile.renameCurrent
    dsimp only
    rw [h.files f.current (.current hname)]
    exact files_update hsep hfirst (.current hname) none n hn
  · exact congrArg intSucc h.countRotatingFile

theorem fopen (hsep : Separated names) (h : Shows names f g) (hname : names f.filename) :
    Shows names f.fopen g.fopen := by
  have hpath : g.filename = f.current.path := h.filename
  refine ⟨h.filename, ?_, rfl, Or.inr ⟨rfl, hname⟩, ?_, h.countRotatingFile, h.countFileMax,
    h.countFile⟩
  · exact congrArg some hpath
  · unfold PathLog.fopen LogFile.fopen
    rw [hpath]
    exact files_update hsep h.files (.current hname) (some [])

theorem setCountFile (h : Shows names f g) (c : Int) :
    Shows names { f with countFile := c } { g with countFile := c } :=
  ⟨h.filename, h.pFile, h.stream, h.current, h.files, h.countRotatingFile, h.countFileMax, rfl⟩

/-- Both models take the same branch. -/
theorem pair_ite {a b : Int × LogFile ρ} {a' b' : Int × PathLog ρ} (c : Prop) [Decidable c]
    (ha : c → a'.1 = a.1 ∧ Shows names a.2 a'.2) (hb : b'.1 = b.1 ∧ Shows names b.2 b'.2) :
    (if c then a' else b').1 = (if c then a else b).1 ∧
      Shows names (if c then a else b).2 (if c then a' else b').2 := by
  split
  · rename_i hc
    exact ha hc
  · exact hb

theorem pair_end (hsep : Separated names) {a : Int × LogFile ρ} {a' : Int × PathLog ρ}
    (ha : a'.1 = a.1 ∧ Shows names a.2 a'.2) (fclose : CloseResult) (isRotated : Bool)
    (left added : Int) :
    Shows names
      (if a.1 = -1 then (a.2.close fclose).2
        else { a.2 with countFile := if isRotated then left else a.2.countFile + added })
      (if a'.1 = -1 then (a'.2.close fclose).2
        else { a'.2 with countFile := if isRotated then left else a'.2.countFile + added }) := by
  rw [ha.1]
  split
  · exact (ha.2.close hsep fclose).2
  · rw [ha.2.countFile]
    exact ha.2.setCountFile _

/-- A rotation that comes to the increment must find a number. -/
theorem rotateFile (hsep : Separated names) (h : Shows names f g) (hname : names f.filename)
    (io : Stdio) (hnumber : io.fclose = .done → io.rename = true → f.HasNumber)
    (hopen : f.pFile ≠ none) : (g.rotateFile io).1 = (f.rotateFile io).1 ∧
      Shows names (f.rotateFile io).2 (g.rotateFile io).2 := by
  obtain ⟨hret, hshows⟩ := h.close hsep io.fclose
  have hclosed : (f.close io.fclose).2.pFile = none := LogFile.close_pFile _
  have hsame : names (f.close io.fclose).2.filename := by
    rw [LogFile.close_filename]
    exact hname
  obtain ⟨m, hm⟩ := Option.ne_none_iff_exists'.mp hopen
  have hstatus := LogFile.close_status hm io.fclose
  unfold PathLog.rotateFile LogFile.rotateFile
  dsimp only
  rw [hret]
  split
  · exact ⟨rfl, hshows⟩
  · rename_i hdone
    split
    · exact ⟨rfl, hshows⟩
    · rename_i hrename
      have hfclose : io.fclose = .done := by
        cases hfclose : io.fclose with
        | done => rfl
        | failed kept =>
          rw [hstatus, hfclose] at hdone
          exact absurd (show (-1 : Int) ≠ 0 by decide) hdone
      have hnumber' : (f.close io.fclose).2.HasNumber := by
        unfold LogFile.HasNumber
        rw [LogFile.close_countRotatingFile]
        exact hnumber hfclose (by simpa using hrename)
      have hrenamed := hshows.rename hsep hsame hclosed hnumber'
      split
      · exact ⟨rfl, hrenamed⟩
      · exact ⟨rfl, hrenamed.fopen hsep hsame⟩

theorem flushToFile (hsep : Separated names) (h : Shows names f g) (io : Stdio) (size : Nat)
    (pBuffer : List ρ) (n : Int)
    (hnumber : f.pFile ≠ none → io.Renames → f.countFileMax - f.countFile ≤ n → f.HasNumber) :
    Shows names (f.flushToFile io size pBuffer n) (g.flushToFile io size pBuffer n) := by
  rcases h.current with hf | ⟨hf, hname⟩
  · have hg := h.pFile_none_iff.mpr hf
    rw [LogFile.flushToFile, if_pos hf, PathLog.flushToFile, if_pos hg]
    exact h
  have hf' : f.pFile ≠ none := by
    rw [hf]
    exact Option.some_ne_none _
  rw [LogFile.flushToFile, if_neg hf', PathLog.flushToFile,
    if_neg fun hg => hf' (h.pFile_none_iff.mp hg)]
  simp only [h.countFileMax, h.countFile]
  have hspace := LogFile.numToFile_fills f (n := n)
  generalize (if decide (n ≤ f.countFileMax - f.countFile) = true then n
    else f.countFileMax - f.countFile) = numToFile at hspace ⊢
  have hwrite := h.writeToFile hsep io.fwrite io.fcloseError (sizeT (numToFile * size))
    (pBuffer.take numToFile.toNat)
  have hdone := LogFile.writeToFile_done f io.fwrite io.fcloseError (sizeT (numToFile * size))
    (pBuffer.take numToFile.toNat)
  have hcount := LogFile.writeToFile_countRotatingFile (f := f) io.fwrite io.fcloseError
    (sizeT (numToFile * size)) (pBuffer.take numToFile.toNat)
  have hsame : names (f.writeToFile io.fwrite io.fcloseError (sizeT (numToFile * size))
      (pBuffer.take numToFile.toNat)).2.filename := by
    rw [LogFile.writeToFile_filename]
    exact hname
  generalize f.writeToFile io.fwrite io.fcloseError (sizeT (numToFile * size))
    (pBuffer.take numToFile.toNat) = w at *
  generalize g.writeToFile io.fwrite io.fcloseError (sizeT (numToFile * size))
    (pBuffer.take numToFile.toNat) = w' at *
  simp only [hwrite.1]
  -- the rotation
  have hrotate (hc : w.1 = 0 ∧ f.countFileMax - f.countFile = numToFile) :
      (w'.2.rotateFile io).1 = (w.2.rotateFile io).1 ∧
        Shows names (w.2.rotateFile io).2 (w'.2.rotateFile io).2 := by
    rcases hdone with ⟨-, hfull, hw⟩ | ⟨-, hbad, -⟩
    · refine hwrite.2.rotateFile hsep hsame io (fun hfclose hrename => ?_) ?_
      · have hf := hnumber hf' ⟨hfull, hfclose, hrename⟩ (hspace hc.2)
        unfold LogFile.HasNumber at hf ⊢
        rwa [hcount]
      · rw [hw]
        exact hf'
    · rw [hbad] at hc
      exact absurd hc.1 (by decide)
  have hr := pair_ite (w.1 = 0 ∧ f.countFileMax - f.countFile = numToFile) hrotate hwrite
  generalize (if w.1 = 0 ∧ f.countFileMax - f.countFile = numToFile then w.2.rotateFile io else w)
    = r at *
  generalize (if w.1 = 0 ∧ f.countFileMax - f.countFile = numToFile then w'.2.rotateFile io
    else w') = r' at *
  simp only [hr.1]
  -- the rest of the records
  have hl := pair_ite ((!decide (n ≤ f.countFileMax - f.countFile) &&
    decide (w.1 = 0 ∧ f.countFileMax - f.countFile = numToFile ∧ r.1 = 0)) = true)
    (fun _ => hr.2.writeToFile hsep io.fwriteLeft io.fcloseError
      (sizeT ((n - numToFile) * size))
      ((pBuffer.drop numToFile.toNat).take (n - numToFile).toNat)) hr
  exact pair_end hsep hl _ _ _ _

theorem openFile (hsep : Separated names) (h : Shows names f g) {filename : String}
    (hname : names filename) (io : Stdio) (recordPerFile : Int) :
    (g.openFile io filename recordPerFile).1 = (f.openFile io filename recordPerFile).1 ∧
      Shows names (f.openFile io filename recordPerFile).2
        (g.openFile io filename recordPerFile).2 := by
  obtain ⟨hret, hshows⟩ := h.close hsep io.fclose
  have hclosed : (f.close io.fclose).2.pFile = none := LogFile.close_pFile _
  unfold PathLog.openFile LogFile.openFile
  dsimp only
  rw [hret]
  split
  · exact ⟨rfl, hshows⟩
  · have hnamed : Shows names { (f.close io.fclose).2 with filename := filename }
        { (g.close io.fclose).2 with filename := filename.toList } :=
      ⟨rfl, hshows.pFile, hshows.stream, Or.inl hclosed, hshows.files, hshows.countRotatingFile,
        hshows.countFileMax, hshows.countFile⟩
    split
    · exact ⟨rfl, hnamed⟩
    · have hopened := hnamed.fopen hsep hname
      exact ⟨rfl, hopened.filename, hopened.pFile, hopened.stream, hopened.current, hopened.files,
        rfl, rfl, rfl⟩

end Shows

end

end HexrotPxiCom.LogTlm
