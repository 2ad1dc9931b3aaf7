import HexrotPxiCom.ConfigPxi

/-!
# Who frees the text of a setting

`configPxi_getSetting` on the events of any YAML file, and its callers, which free the text.
-/

namespace HexrotPxiCom.ConfigPxi

set_option autoImplicit false

inductive YamlNode where
  | alias
  | scalar (value : List UInt8)
  | sequence (items : List YamlNode)
  | mapping (entries : List (YamlNode × YamlNode))

mutual

/-- The events that libyaml makes of a node. -/
def YamlNode.events : YamlNode → List YamlEvent
  | .alias => [.alias]
  | .scalar value => [.scalar value]
  | .sequence items => .sequenceStart :: (itemEvents items ++ [.sequenceEnd])
  | .mapping entries => .mappingStart :: (entryEvents entries ++ [.mappingEnd])

def itemEvents : List YamlNode → List YamlEvent
  | [] => []
  | item :: items => item.events ++ itemEvents items

def entryEvents : List (YamlNode × YamlNode) → List YamlEvent
  | [] => []
  | (key, value) :: entries => key.events ++ value.events ++ entryEvents entries

end

/-- The events before the end of the stream. -/
def body (documents : List YamlNode) : List YamlEvent :=
  .streamStart ::
    documents.flatMap fun root => .documentStart :: (root.events ++ [.documentEnd])

/-- The events of a file with these documents, of which an empty one is an empty scalar. -/
def stream (documents : List YamlNode) : List YamlEvent := body documents ++ [.streamEnd]

def YamlEvent.value : YamlEvent → Option (List UInt8)
  | .scalar value => some value
  | _ => none

/-- The scalars of some events, at any depth. -/
def scalarsIn (events : List YamlEvent) : List (List UInt8) := events.filterMap YamlEvent.value

/-- Every block that has been allocated. -/
def Lookup.blocks (s : Lookup) : List (List UInt8) := s.lostBlocks ++ s.pStrSettingValue.toList

/-- The caller has one block to free, and nothing else is left. -/
structure Lookup.Owned (s : Lookup) : Prop where
  allocated : s.pStrSettingValue ≠ none
  lost : s.lostBlocks = []
  kept : s.keptEvents = []

/-- `free` of the text; `none` is undefined behaviour, the text is the literal. -/
def Lookup.free (s : Lookup) : Option Lookup :=
  s.pStrSettingValue.map fun _ => { s with pStrSettingValue := none }

/-- The callers of `configPxi_getSetting`: the value, and what is left when they return. -/
def getVal {α : Type} (convert : List UInt8 → α) (file : Option (List YamlEvent))
    (name : CString) : Option (α × Lookup) :=
  (getSetting file name).bind fun s => s.free.map fun left => (convert s.text, left)

def getValDouble {Double : Type} (atof : List UInt8 → Double) (file : Option (List YamlEvent))
    (name : CString) : Option (Double × Lookup) := getVal atof file name

def getValInt (atoi : List UInt8 → Int) (file : Option (List YamlEvent)) (name : CString) :
    Option (Int × Lookup) := getVal atoi file name

mutual

theorem streamEnd_notMem_events : ∀ node : YamlNode, .streamEnd ∉ node.events
  | .alias => by simp [YamlNode.events]
  | .scalar value => by simp [YamlNode.events]
  | .sequence items => by
    have hitems := streamEnd_notMem_itemEvents items
    simp [YamlNode.events, hitems]
  | .mapping entries => by
    have hentries := streamEnd_notMem_entryEvents entries
    simp [YamlNode.events, hentries]

theorem streamEnd_notMem_itemEvents : ∀ items : List YamlNode, .streamEnd ∉ itemEvents items
  | [] => by simp [itemEvents]
  | item :: items => by
    have hitem := streamEnd_notMem_events item
    have hitems := streamEnd_notMem_itemEvents items
    simp [itemEvents, hitem, hitems]

theorem streamEnd_notMem_entryEvents :
    ∀ entries : List (YamlNode × YamlNode), .streamEnd ∉ entryEvents entries
  | [] => by simp [entryEvents]
  | (key, value) :: entries => by
    have hkey := streamEnd_notMem_events key
    have hvalue := streamEnd_notMem_events value
    have hentries := streamEnd_notMem_entryEvents entries
    simp [entryEvents, hkey, hvalue, hentries]

end

theorem streamEnd_notMem_body (documents : List YamlNode) : .streamEnd ∉ body documents := by
  intro hmem
  rcases List.mem_cons.mp hmem with hmem | hmem
  · cases hmem
  · obtain ⟨root, _, hmem⟩ := List.mem_flatMap.mp hmem
    have hroot := streamEnd_notMem_events root
    simp [hroot] at hmem

theorem scalarsIn_stream (documents : List YamlNode) :
    scalarsIn (stream documents) = scalarsIn (body documents) := by
  rw [scalarsIn, stream, List.filterMap_append]
  exact List.append_nil _

section
variable {name : CString} {s t r : Lookup} {event : YamlEvent} {events : List YamlEvent}

/-- An event that is not the name: a scalar adds a block. -/
theorem turn_unfound (hfound : s.foundKey = false) (hend : event ≠ .streamEnd)
    (hother : event ≠ .scalar name.chars) :
    ∃ t, turn name event s = (t, false) ∧ t.foundKey = false ∧ t.keptEvents = s.keptEvents ∧
      t.blocks.length = s.blocks.length + event.value.toList.length ∧
      (t.pStrSettingValue = none → s.pStrSettingValue = none ∧ event.value = none) := by
  cases event with
  | scalar value =>
    have hne : isSetting name value ≠ true := by
      intro heq
      rw [(isSetting_iff value).mp heq] at hother
      exact hother rfl
    rw [turn, if_neg hne, hfound]
    refine ⟨_, rfl, rfl, rfl, ?_, ?_⟩
    · simp [Lookup.blocks, YamlEvent.value, Nat.add_assoc]
    · intro hnone
      cases hnone
  | streamEnd => exact absurd rfl hend
  | _ =>
    refine ⟨s, ?_, hfound, rfl, rfl, fun h => ⟨h, rfl⟩⟩
    rw [← hfound]
    rfl

/-- Without the name, the loop goes to the end, and only the last block can be freed. -/
theorem parse_unfound (hfound : s.foundKey = false) (hend : .streamEnd ∉ events)
    (hname : name.chars ∉ scalarsIn events) :
    ∃ r, parse name (events ++ [.streamEnd]) s = some r ∧ r.keptEvents = s.keptEvents ∧
      r.blocks.length = s.blocks.length + (scalarsIn events).length ∧
      (r.pStrSettingValue = none → s.pStrSettingValue = none ∧ scalarsIn events = []) := by
  induction events generalizing s with
  | nil => exact ⟨s, rfl, rfl, rfl, fun h => ⟨h, rfl⟩⟩
  | cons event events ih =>
    have hsplit : scalarsIn (event :: events) = event.value.toList ++ scalarsIn events := by
      rw [scalarsIn, List.filterMap_cons, scalarsIn]
      cases event.value <;> rfl
    rw [hsplit] at hname ⊢
    have hother : event ≠ .scalar name.chars := by
      rintro rfl
      exact hname (List.mem_append_left _ List.mem_cons_self)
    obtain ⟨t, hturn, htfound, htkept, htblocks, htnone⟩ :=
      turn_unfound hfound (fun h => hend (h ▸ List.mem_cons_self)) hother
    obtain ⟨r, hr, hkept, hblocks, hnone⟩ := ih htfound
      (fun h => hend (List.mem_cons_of_mem event h)) (fun h => hname (List.mem_append_right _ h))
    refine ⟨r, ?_, by rw [hkept, htkept], ?_, ?_⟩
    · rw [List.cons_append, parse, hturn]
      exact hr
    · rw [hblocks, htblocks, List.length_append, Nat.add_assoc]
    · intro h
      obtain ⟨ht, hrest⟩ := hnone h
      obtain ⟨hs, hvalue⟩ := htnone ht
      exact ⟨hs, by rw [hvalue, hrest]; rfl⟩

/-- An event without its `yaml_event_delete` never gets one. -/
theorem turn_kept (event : YamlEvent) (s : Lookup) :
    s.keptEvents.length ≤ (turn name event s).1.keptEvents.length := by
  cases event with
  | scalar value =>
    rw [turn]
    split
    · dsimp only
      rw [List.length_append]
      exact Nat.le_add_right _ _
    · exact Nat.le_refl _
  | _ => exact Nat.le_refl _

theorem parse_kept (h : parse name events s = some r) :
    s.keptEvents.length ≤ r.keptEvents.length := by
  induction events generalizing s with
  | nil => cases h
  | cons event events ih =>
    have hturn := @turn_kept name event s
    rw [parse] at h
    split at h
    · cases h
      exact hturn
    · exact Nat.le_trans hturn (ih h)

theorem parse_found (hfound : s.foundKey = false) (hend : .streamEnd ∉ events)
    (hname : name.chars ∈ scalarsIn events)
    (h : parse name (events ++ [.streamEnd]) s = some r) : r.keptEvents ≠ [] := by
  induction events generalizing s with
  | nil => cases hname
  | cons event events ih =>
    rw [List.cons_append, parse] at h
    by_cases hevent : event = .scalar name.chars
    · subst hevent
      rw [turn_name] at h
      have hkept := parse_kept (show parse name _ _ = some r from h)
      rw [List.length_append, List.length_singleton] at hkept
      apply List.ne_nil_of_length_pos
      omega
    · obtain ⟨t, hturn, htfound, -⟩ :=
        turn_unfound hfound (fun h => hend (h ▸ List.mem_cons_self)) hevent
      rw [hturn] at h
      refine ih htfound (fun h => hend (List.mem_cons_of_mem event h)) ?_ h
      obtain ⟨e, he, hvalue⟩ := List.mem_filterMap.mp hname
      rcases List.mem_cons.mp he with rfl | he
      · cases e <;> cases hvalue
        exact absurd rfl hevent
      · exact List.mem_filterMap.mpr ⟨e, he, hvalue⟩

/-- The callers free the one block, and nothing is left. -/
theorem Lookup.Owned.getVal {α : Type} (convert : List UInt8 → α)
    {file : Option (List YamlEvent)} (hs : getSetting file name = some s) (howned : s.Owned) :
    ∃ left, getVal convert file name = some (convert s.text, left) ∧ left.blocks = [] ∧
      left.keptEvents = [] := by
  obtain ⟨block, hblock⟩ := Option.ne_none_iff_exists'.mp howned.allocated
  refine ⟨{ s with pStrSettingValue := none }, ?_, ?_, howned.kept⟩
  · rw [ConfigPxi.getVal, hs, Option.bind_some, Lookup.free, hblock, Option.map_some,
      Option.map_some]
  · rw [Lookup.blocks, howned.lost]
    rfl

end

/-- The text is the caller's own exactly when the file has one scalar, which is not the name. -/
theorem getSetting_owned_iff (documents : List YamlNode) (name : CString) :
    (∃ s, getSetting (some (stream documents)) name = some s ∧ s.Owned) ↔
      ∃ value, scalarsIn (stream documents) = [value] ∧ value ≠ name.chars := by
  have hend := streamEnd_notMem_body documents
  rw [scalarsIn_stream]
  constructor
  · rintro ⟨s, hs, howned⟩
    have hname : name.chars ∉ scalarsIn (body documents) :=
      fun hmem => @parse_found name ⟨none, false, [], []⟩ s _ rfl hend hmem hs howned.kept
    obtain ⟨r, hr, _, hblocks, _⟩ := @parse_unfound name ⟨none, false, [], []⟩ _ rfl hend hname
    have hsame : r = s := Option.some.inj (hr.symm.trans hs)
    subst hsame
    obtain ⟨block, hblock⟩ := Option.ne_none_iff_exists'.mp howned.allocated
    rw [Lookup.blocks, howned.lost, hblock] at hblocks
    have hone : (scalarsIn (body documents)).length = 1 := by
      simpa [Lookup.blocks] using hblocks.symm
    obtain ⟨value, hvalue⟩ := List.length_eq_one_iff.mp hone
    refine ⟨value, hvalue, ?_⟩
    rintro rfl
    exact hname (hvalue ▸ List.mem_cons_self)
  · rintro ⟨value, hvalue, hne⟩
    have hname : name.chars ∉ scalarsIn (body documents) := by
      rw [hvalue]
      exact fun hmem => hne (List.mem_singleton.mp hmem).symm
    obtain ⟨s, hs, hkept, hblocks, hnone⟩ :=
      @parse_unfound name ⟨none, false, [], []⟩ _ rfl hend hname
    rw [hvalue] at hblocks hnone
    have hallocated : s.pStrSettingValue ≠ none := by
      intro h
      cases (hnone h).2
    refine ⟨s, hs, hallocated, ?_, hkept⟩
    obtain ⟨block, hblock⟩ := Option.ne_none_iff_exists'.mp hallocated
    rw [Lookup.blocks, hblock, List.length_append] at hblocks
    exact List.length_eq_zero_iff.mp (Nat.succ.inj hblocks)

/-- The file `N: 5` keeps the event of its key. In an empty file the text is the literal, and its
`free` is undefined. -/
theorem getSetting_not_owned :
    getSetting (some (stream [.mapping [(.scalar [78], .scalar [53])]])) settingN =
      some ⟨some [53, 0], true, [], [.scalar [78]]⟩ ∧
    (¬ ∃ s, getSetting (some (stream [.mapping [(.scalar [78], .scalar [53])]])) settingN = some s ∧
      s.Owned) ∧
    getSetting (some (stream [])) settingN = some ⟨none, false, [], []⟩ ∧
    getValInt (fun _ => 0) (some (stream [])) settingN = none := by
  have hfirst : getSetting (some (stream [.mapping [(.scalar [78], .scalar [53])]])) settingN =
      some ⟨some [53, 0], true, [], [.scalar [78]]⟩ := by rfl
  refine ⟨hfirst, ?_, rfl, rfl⟩
  rintro ⟨s, hs, howned⟩
  rw [hfirst] at hs
  cases hs
  exact absurd howned.kept (List.cons_ne_nil _ _)

end HexrotPxiCom.ConfigPxi
