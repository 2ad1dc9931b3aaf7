import HexrotPxiCom.Lib.Loop
import Mathlib.Data.Int.Notation
import Mathlib.Data.UInt

/-!
# SDO download with retries

`driveTool_sdoDownload` over the results that `ecrt_master_sdo_download` gives, the first call
the result `results 0`, the next one `results 1` and so on.
-/

namespace HexrotPxiCom.DriveTool

set_option autoImplicit false

/-- What is handed on to `ecrt_master_sdo_download`. -/
structure SdoRequest where
  slavePosition : UInt16
  index : UInt16
  subindex : UInt8
  data : List UInt8
  dataSize : Nat
  deriving Repr, DecidableEq

inductive SdoEvent where
  | ecrtMasterSdoDownload (request : SdoRequest) (result : Int)
  | sleep (sleepTime : UInt32)
  deriving Repr, DecidableEq

def SdoEvent.result : SdoEvent → Option Int
  | .ecrtMasterSdoDownload _ result => some result
  | .sleep _ => none

/-- The locals of `driveTool_sdoDownload`, and what it has done. -/
structure Download where
  count : Int
  ret : Int
  events : List SdoEvent
  deriving Repr, DecidableEq

/-- The results of the calls, in their order. -/
def Download.calls (s : Download) : List Int := s.events.filterMap SdoEvent.result

def Download.initial : Download := ⟨0, 0, []⟩

section
variable (results : Nat → Int) (request : SdoRequest) (maxRetryTimes : Int) (sleepTime : UInt32)

/-- One turn of the loop. -/
def sdoDownloadTurn (s : Download) : Download ⊕ Download :=
  if s.count < maxRetryTimes then
    let ret := results s.calls.length
    let called := s.events ++ [.ecrtMasterSdoDownload request ret]
    if ret = 0 then .inr { s with ret := ret, events := called }
    else .inl ⟨s.count + 1, ret, called ++ [.sleep sleepTime]⟩
  else .inr s

/-- The loop with at most `fuel` turns. -/
def sdoDownload (fuel : Nat) : Option Download :=
  loop (sdoDownloadTurn results request maxRetryTimes sleepTime) fuel .initial

/-- What the callers rely on: a 0 is the success of a call. -/
structure RetriesUntilSuccess (s : Download) : Prop where
  ret : s.ret = 0 ∧ 0 ∈ s.calls ∨ s.ret < 0
  none_after_success : ∀ r ∈ s.calls.dropLast, r ≠ 0
  bounded : (s.calls.length : Int) ≤ max maxRetryTimes 0
  success : ∀ k : Nat, k < maxRetryTimes → results k = 0 → s.ret = 0

/-- After `count` calls without a success. -/
structure Retrying (s : Download) : Prop where
  count : s.count = s.calls.length
  calls : s.calls = (List.range s.calls.length).map results
  failed : ∀ r ∈ s.calls, r ≠ 0
  bounded : (s.calls.length : Int) ≤ max maxRetryTimes 0
  ret : s.ret = s.calls.getLast?.getD 0

end

section
variable {results : Nat → Int} {request : SdoRequest} {maxRetryTimes : Int} {sleepTime : UInt32}
  {s t : Download}

theorem sdoDownloadTurn_cases (s : Download) :
    (maxRetryTimes ≤ s.count ∧
      sdoDownloadTurn results request maxRetryTimes sleepTime s = .inr s) ∨
    (s.count < maxRetryTimes ∧ results s.calls.length = 0 ∧
      ∃ t, sdoDownloadTurn results request maxRetryTimes sleepTime s = .inr t ∧
        t.ret = 0 ∧ t.calls = s.calls ++ [0]) ∨
    (s.count < maxRetryTimes ∧ results s.calls.length ≠ 0 ∧
      ∃ t, sdoDownloadTurn results request maxRetryTimes sleepTime s = .inl t ∧
        t.count = s.count + 1 ∧ t.ret = results s.calls.length ∧
        t.calls = s.calls ++ [results s.calls.length]) := by
  unfold sdoDownloadTurn
  by_cases hcount : s.count < maxRetryTimes
  · rw [if_pos hcount]
    by_cases hret : results s.calls.length = 0
    · rw [if_pos hret]
      refine Or.inr (Or.inl ⟨hcount, hret, _, rfl, hret, ?_⟩)
      rw [hret]
      simp [Download.calls, SdoEvent.result]
    · rw [if_neg hret]
      refine Or.inr (Or.inr ⟨hcount, hret, _, rfl, rfl, rfl, ?_⟩)
      simp [Download.calls, SdoEvent.result]
  · rw [if_neg hcount]
    exact Or.inl ⟨by omega, rfl⟩

theorem Retrying.initial : Retrying results maxRetryTimes .initial where
  count := rfl
  calls := rfl
  failed := by simp [Download.calls, Download.initial]
  bounded := by simp [Download.calls, Download.initial]
  ret := rfl

/-- A call that fails leaves the loop with one call more. -/
theorem Retrying.next (hs : Retrying results maxRetryTimes s) (hcount : s.count < maxRetryTimes)
    (hfailed : results s.calls.length ≠ 0) (ht : t.count = s.count + 1)
    (hret : t.ret = results s.calls.length)
    (hcalls : t.calls = s.calls ++ [results s.calls.length]) :
    Retrying results maxRetryTimes t := by
  have hlength : t.calls.length = s.calls.length + 1 := by rw [hcalls, List.length_append]; rfl
  have hn := hs.count
  constructor
  · omega
  · rw [hlength, List.range_succ, List.map_append, ← hs.calls, hcalls]
    rfl
  · intro r hr
    rw [hcalls] at hr
    rcases List.mem_append.mp hr with hr | hr
    · exact hs.failed r hr
    · rw [List.mem_singleton.mp hr]
      exact hfailed
  · omega
  · rw [hret, hcalls, List.getLast?_concat]
    rfl

/-- Every result that the loop has seen was a failure. -/
theorem Retrying.results_ne (hs : Retrying results maxRetryTimes s) {k : Nat}
    (hk : k < s.calls.length) : results k ≠ 0 := by
  apply hs.failed
  rw [hs.calls]
  exact List.mem_map.mpr ⟨k, List.mem_range.mpr hk, rfl⟩

theorem Retrying.exists_result (hs : Retrying results maxRetryTimes s) {r : Int}
    (hr : r ∈ s.calls) : ∃ k, results k = r := by
  rw [hs.calls] at hr
  obtain ⟨k, -, hk⟩ := List.mem_map.mp hr
  exact ⟨k, hk⟩

theorem Retrying.exhausted (hs : Retrying results maxRetryTimes s) (hdone : maxRetryTimes ≤ s.count)
    (hpos : 0 < maxRetryTimes) (hresults : ∀ k, results k ≤ 0) :
    RetriesUntilSuccess results maxRetryTimes s := by
  have hn := hs.count
  have hne : s.calls ≠ [] := by
    intro hnil
    rw [hnil] at hn
    have hzero : s.count = 0 := hn
    omega
  have hret : s.ret = s.calls.getLast hne := by
    rw [hs.ret, List.getLast?_eq_some_getLast hne, Option.getD_some]
  have hlast := List.getLast_mem hne
  have hneg : s.ret < 0 := by
    have hfailed := hs.failed _ hlast
    obtain ⟨k, hk⟩ := hs.exists_result hlast
    have hle := hresults k
    omega
  refine ⟨Or.inr hneg, ?_, hs.bounded, ?_⟩
  · intro r hr
    exact hs.failed r (List.dropLast_subset _ hr)
  · intro k hk hzero
    exact absurd hzero (hs.results_ne (by omega))

theorem Retrying.succeeded (hs : Retrying results maxRetryTimes s)
    (hcount : s.count < maxRetryTimes) (hret : t.ret = 0) (hcalls : t.calls = s.calls ++ [0]) :
    RetriesUntilSuccess results maxRetryTimes t := by
  have hn := hs.count
  refine ⟨Or.inl ⟨hret, ?_⟩, ?_, ?_, fun _ _ _ => hret⟩
  · rw [hcalls]
    exact List.mem_append_right _ List.mem_cons_self
  · rw [hcalls, List.dropLast_concat]
    exact hs.failed
  · rw [hcalls, List.length_append, List.length_singleton]
    omega

/-- With at least one try, the loop ends and does what its callers rely on. -/
theorem sdoDownload_retries (hresults : ∀ k, results k ≤ 0) (hpos : 0 < maxRetryTimes) :
    ∃ t, Loop.Returns (sdoDownloadTurn results request maxRetryTimes sleepTime) .initial t ∧
      RetriesUntilSuccess results maxRetryTimes t := by
  apply Loop.returns_of_measure fun s => (maxRetryTimes - s.count).toNat
  · intro s t (hs : Retrying results maxRetryTimes s) hturn
    obtain ⟨_, h⟩ | ⟨_, _, u, h, _⟩ | ⟨hcount, hfailed, u, h, hu⟩ :=
      @sdoDownloadTurn_cases results request maxRetryTimes sleepTime s
    · rw [h] at hturn
      cases hturn
    · rw [h] at hturn
      cases hturn
    · rw [h] at hturn
      cases hturn
      obtain ⟨hnext, hret, hcalls⟩ := hu
      exact ⟨hs.next hcount hfailed hnext hret hcalls, by omega⟩
  · intro s t hs hturn
    obtain ⟨hdone, h⟩ | ⟨hcount, _, u, h, hret, hcalls⟩ | ⟨_, _, u, h, _⟩ :=
      @sdoDownloadTurn_cases results request maxRetryTimes sleepTime s
    · rw [h] at hturn
      cases hturn
      exact hs.exhausted hdone hpos hresults
    · rw [h] at hturn
      cases hturn
      exact hs.succeeded hcount hret hcalls
    · rw [h] at hturn
      cases hturn
  · exact .initial

/-- Without a try the loop is left at once, and `ret` is as it was initialised. -/
theorem sdoDownload_untried (hmax : maxRetryTimes ≤ 0) :
    Loop.Returns (sdoDownloadTurn results request maxRetryTimes sleepTime) .initial .initial :=
  ⟨1, Loop.loop_inr (if_neg (Int.not_lt.mpr hmax))⟩

/-- The 0 it then returns is no success. -/
theorem sdoDownload_untried_not (hmax : maxRetryTimes ≤ 0) :
    ¬ ∃ fuel s, sdoDownload results request maxRetryTimes sleepTime fuel = some s ∧
      RetriesUntilSuccess results maxRetryTimes s := by
  rintro ⟨fuel, s, hs, hmeets⟩
  have hinitial : s = .initial := Loop.Returns.unique ⟨fuel, hs⟩ (sdoDownload_untried hmax)
  subst hinitial
  obtain ⟨-, hmem⟩ | hneg := hmeets.ret
  · cases hmem
  · exact absurd hneg (Int.lt_irrefl 0)

end

/-- A 0 is the success of a call exactly when at least one try is asked for. -/
theorem sdoDownload_retries_iff (results : Nat → Int) (request : SdoRequest) (maxRetryTimes : Int)
    (sleepTime : UInt32) (hresults : ∀ k, results k ≤ 0) :
    (∃ fuel s, sdoDownload results request maxRetryTimes sleepTime fuel = some s ∧
      RetriesUntilSuccess results maxRetryTimes s) ↔ 0 < maxRetryTimes := by
  constructor
  · intro hmeets
    by_contra hmax
    exact sdoDownload_untried_not (by omega) hmeets
  · intro hpos
    obtain ⟨s, ⟨fuel, hs⟩, hmeets⟩ :=
      @sdoDownload_retries results request maxRetryTimes sleepTime hresults hpos
    exact ⟨fuel, s, hs, hmeets⟩

/-- Twice `-EIO`, then a success. -/
def thirdTry (k : Nat) : Int := if k = 2 then 0 else -5

def requestOne : SdoRequest := ⟨0, 0x2200, 0, [1], 1⟩

theorem thirdTry_nonpos (k : Nat) : thirdTry k ≤ 0 := by
  unfold thirdTry
  split <;> omega

theorem sdoDownload_thirdTry : 0 < (3 : Int) ∧
    ∃ fuel s, sdoDownload thirdTry requestOne 3 1 fuel = some s ∧
      RetriesUntilSuccess thirdTry 3 s :=
  ⟨by decide, (sdoDownload_retries_iff thirdTry requestOne 3 1 thirdTry_nonpos).mpr (by decide)⟩

/-- With `maxRetryTimes = 0` the result is 0, and nothing was downloaded. -/
theorem sdoDownload_zero : sdoDownload thirdTry requestOne 0 1 1 = some .initial ∧
    Download.initial.ret = 0 ∧ Download.initial.calls = [] ∧
    ¬ ∃ fuel s, sdoDownload thirdTry requestOne 0 1 fuel = some s ∧
      RetriesUntilSuccess thirdTry 0 s :=
  ⟨rfl, rfl, rfl, sdoDownload_untried_not (Int.le_refl 0)⟩

end HexrotPxiCom.DriveTool
