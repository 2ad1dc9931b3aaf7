import HexrotPxiCom.Lib.CString

/-!
# Configuration settings

`configPxi_getSetting` on the events that the YAML parser delivers for the file. The loop looks
at one event after another and at nothing else, so it does not know a key from a value.
-/

namespace HexrotPxiCom.ConfigPxi

set_option autoImplicit false

/-- `yaml_event_t`. -/
inductive YamlEvent where
  | streamStart
  | streamEnd
  | documentStart
  | documentEnd
  | alias
  | scalar (value : List UInt8)
  | sequenceStart
  | sequenceEnd
  | mappingStart
  | mappingEnd
  deriving Repr, DecidableEq

/-- The locals of `configPxi_getSetting`, and what it has not released. -/
structure Lookup where
  /-- The block that the pointer points to, `none` for the literal `""`. -/
  pStrSettingValue : Option (List UInt8)
  foundKey : Bool
  /-- The blocks that no pointer points to any more. -/
  lostBlocks : List (List UInt8)
  /-- The events without their `yaml_event_delete`. -/
  keptEvents : List YamlEvent
  deriving Repr, DecidableEq

/-- The string that the caller reads. -/
def Lookup.text (s : Lookup) : List UInt8 :=
  match s.pStrSettingValue with
  | none => []
  | some block => CString.text block

def isSetting (name : CString) (value : List UInt8) : Bool :=
  name.strlen = value.length ∧ CString.strncmp value.length value name.chars = 0

/-- One turn of the loop, and whether it is left. -/
def turn (name : CString) (event : YamlEvent) (s : Lookup) : Lookup × Bool :=
  match event with
  | .scalar value =>
    if isSetting name value then
      -- `continue` passes over `yaml_event_delete`
      ({ s with foundKey := true, keptEvents := s.keptEvents ++ [event] }, false)
    else
      let block :=
        if s.foundKey then CString.strncpy (value.length + 1) value
        else List.replicate (value.length + 1) 0
      ({ s with
        pStrSettingValue := some block
        lostBlocks := s.lostBlocks ++ s.pStrSettingValue.toList }, s.foundKey)
  | .streamEnd => (s, true)
  | _ => (s, s.foundKey)

/-- The loop; `none` is `exit(EXIT_FAILURE)`, after an event that cannot be parsed. -/
def parse (name : CString) : List YamlEvent → Lookup → Option Lookup
  | [], _ => none
  | event :: events, s =>
    if (turn name event s).2 then some (turn name event s).1
    else parse name events (turn name event s).1

/-- `file` has the events of the file, if `fopen` succeeds. -/
def getSetting (file : Option (List YamlEvent)) (name : CString) : Option Lookup :=
  file.bind fun events => parse name events ⟨none, false, [], []⟩

/-- A key and its value. -/
abbrev Entry := List UInt8 × List UInt8

def scalars (entries : List Entry) : List (List UInt8) :=
  entries.flatMap fun e => [e.1, e.2]

/-- The events of a document that is one mapping. -/
def flatMapping (entries : List Entry) : List YamlEvent :=
  [.streamStart, .documentStart, .mappingStart] ++ (scalars entries).map .scalar ++
    [.mappingEnd, .documentEnd, .streamEnd]

/-- What the file says about a setting. -/
def valueOf (name : CString) (entries : List Entry) : List UInt8 :=
  (entries.lookup name.chars).getD []

section
variable {name : CString} {s : Lookup}

@[simp] theorem isSetting_iff (value : List UInt8) :
    isSetting name value = true ↔ value = name.chars := by
  unfold isSetting CString.strlen
  rw [decide_eq_true_eq]
  constructor
  · rintro ⟨hlength, hcmp⟩
    exact (CString.strncmp_eq_zero_iff rfl hlength name.noNul).mp hcmp
  · rintro rfl
    exact ⟨rfl, (CString.strncmp_eq_zero_iff rfl rfl name.noNul).mpr rfl⟩

theorem turn_name (s : Lookup) : turn name (.scalar name.chars) s =
    ({ s with foundKey := true, keptEvents := s.keptEvents ++ [.scalar name.chars] }, false) := by
  rw [turn, if_pos ((isSetting_iff _).mpr rfl)]

theorem turn_other {value : List UInt8} (hne : value ≠ name.chars) (s : Lookup) :
    (turn name (.scalar value) s).1.text = (if s.foundKey then CString.text value else []) ∧
      (turn name (.scalar value) s).1.foundKey = s.foundKey ∧
      (turn name (.scalar value) s).2 = s.foundKey := by
  have hno : isSetting name value ≠ true := fun h => hne ((isSetting_iff value).mp h)
  rw [turn, if_neg hno]
  refine ⟨?_, rfl, rfl⟩
  unfold Lookup.text
  dsimp only
  split
  · exact CString.text_strncpy value
  · exact CString.text_replicate _

/-- The first scalar that is not the name. -/
def firstOther (name : CString) (xs : List (List UInt8)) : List UInt8 :=
  (xs.dropWhile (· = name.chars)).headD []

theorem firstOther_name (xs : List (List UInt8)) :
    firstOther name (name.chars :: xs) = firstOther name xs := by
  rw [firstOther, List.dropWhile_cons_of_pos (by simp), firstOther]

theorem firstOther_other {x : List UInt8} (hne : x ≠ name.chars) (xs : List (List UInt8)) :
    firstOther name (x :: xs) = x := by
  rw [firstOther, List.dropWhile_cons_of_neg (by simpa), List.headD_cons]

/-- The scalar that follows the first scalars that are the name. -/
def follower (name : CString) (xs : List (List UInt8)) : List UInt8 :=
  firstOther name (xs.dropWhile (· ≠ name.chars))

theorem follower_name (xs : List (List UInt8)) :
    follower name (name.chars :: xs) = firstOther name xs := by
  rw [follower, List.dropWhile_cons_of_neg (by simp), firstOther_name]

theorem follower_other {x : List UInt8} (hne : x ≠ name.chars) (xs : List (List UInt8)) :
    follower name (x :: xs) = follower name xs := by
  rw [follower, List.dropWhile_cons_of_pos (by simpa), follower]

/-- Once the name has been seen, the next scalar that is not the name is the result; before, the
scalars are passed over. -/
theorem parse_scalars {xs : List (List UInt8)} (htext : s.text = []) :
    ∃ t, parse name (xs.map .scalar ++ [.mappingEnd, .documentEnd, .streamEnd]) s = some t ∧
      t.text =
        CString.text (if s.foundKey then firstOther name xs else follower name xs) := by
  induction xs generalizing s with
  | nil =>
    refine ⟨s, ?_, by rw [htext]; split <;> rfl⟩
    cases hfound : s.foundKey <;> simp [parse, turn, hfound]
  | cons x xs ih =>
    rw [List.map_cons, List.cons_append, parse]
    by_cases hx : x = name.chars
    · subst hx
      rw [turn_name, firstOther_name, follower_name, ite_self]
      exact ih htext
    · obtain ⟨hvalue, hkey, hleft⟩ := turn_other hx s
      rw [hleft, firstOther_other hx, follower_other hx]
      cases hfound : s.foundKey with
      | true =>
        rw [hfound] at hvalue
        exact ⟨_, rfl, hvalue⟩
      | false =>
        rw [hfound] at hvalue hkey
        have hrest := ih hvalue
        rw [hkey] at hrest
        exact hrest

/-- On a flat mapping the scalar that follows the name is returned, wherever the name stands. -/
theorem getSetting_flatMapping (name : CString) (entries : List Entry) :
    (getSetting (some (flatMapping entries)) name).map Lookup.text =
      some (CString.text (follower name (scalars entries))) := by
  obtain ⟨t, ht, htext⟩ := @parse_scalars name ⟨none, false, [], []⟩ (scalars entries) rfl
  have hstart : getSetting (some (flatMapping entries)) name = some t := ht
  rw [hstart, Option.map_some, htext]
  rfl

end

/-- The value of the name's own entry is read right. When the value is the name again, the next
key is read in its place. -/
def ReadsOwn (name : CString) (value : List UInt8) (rest : List Entry) : Prop :=
  if value = name.chars then CString.text ((rest.map Prod.fst).headD []) = name.chars
  else 0 ∉ value

/-- Behind a value that is the name, the next key is read. Only the key that is the name leads to
the name's own value. -/
def ReadsNext (name : CString) : List Entry → Prop
  | [] => True
  | (key, value) :: rest =>
    if key = name.chars then ReadsOwn name value rest
    else CString.text key = valueOf name rest

/-- The first entry with the name in it, as its key or as its value, decides what is read. -/
def ReadsRight (name : CString) : List Entry → Prop
  | [] => True
  | (key, value) :: rest =>
    if key = name.chars then ReadsOwn name value rest
    else if value = name.chars then ReadsNext name rest
    else ReadsRight name rest

instance (name : CString) (value : List UInt8) (rest : List Entry) :
    Decidable (ReadsOwn name value rest) :=
  inferInstanceAs (Decidable (if value = name.chars then _ else _))

instance ReadsNext.decidable (name : CString) : ∀ entries, Decidable (ReadsNext name entries)
  | [] => .isTrue trivial
  | (key, _) :: _ => inferInstanceAs (Decidable (if key = name.chars then _ else _))

instance ReadsRight.decidable (name : CString) : ∀ entries, Decidable (ReadsRight name entries)
  | [] => .isTrue trivial
  | (key, value) :: rest =>
    have := ReadsRight.decidable name rest
    inferInstanceAs (Decidable (if key = name.chars then _ else if value = name.chars then _ else _))

section
variable {name : CString} {key value : List UInt8} {rest : List Entry}

theorem scalars_cons : scalars ((key, value) :: rest) = key :: value :: scalars rest := rfl

theorem valueOf_self : valueOf name ((name.chars, value) :: rest) = value := by
  rw [valueOf, List.lookup_cons_self, Option.getD_some]

theorem valueOf_of_ne (hne : key ≠ name.chars) :
    valueOf name ((key, value) :: rest) = valueOf name rest := by
  have hbeq : (name.chars == key) = false := beq_false_of_ne (Ne.symm hne)
  rw [valueOf, List.lookup_cons, hbeq, valueOf]

/-- The first scalar of the entries that is not the name is their first key. -/
theorem firstOther_scalars (hrest : ∀ e ∈ rest, e.1 ≠ name.chars) :
    firstOther name (scalars rest) = (rest.map Prod.fst).headD [] := by
  cases rest with
  | nil => rfl
  | cons e rest =>
    rw [scalars_cons, firstOther_other (hrest e List.mem_cons_self)]
    rfl

theorem own_iff (hrest : ∀ e ∈ rest, e.1 ≠ name.chars) :
    CString.text (firstOther name (value :: scalars rest)) = value ↔ ReadsOwn name value rest := by
  unfold ReadsOwn
  split
  · rename_i heq
    subst heq
    rw [firstOther_name, firstOther_scalars hrest]
  · rename_i hne
    rw [firstOther_other hne, CString.text_eq_self_iff]

/-- Behind an entry with the name as its key, no other key is the name. -/
theorem keys_ne (hkeys : ((key :: rest.map Prod.fst)).Nodup) (hkey : key = name.chars) :
    ∀ e ∈ rest, e.1 ≠ name.chars := by
  intro e he heq
  apply (List.nodup_cons.mp hkeys).1
  exact List.mem_map.mpr ⟨e, he, heq.trans hkey.symm⟩

theorem next_iff (hkeys : (rest.map Prod.fst).Nodup) :
    CString.text (firstOther name (scalars rest)) = valueOf name rest ↔ ReadsNext name rest := by
  cases rest with
  | nil => exact ⟨fun _ => trivial, fun _ => rfl⟩
  | cons e rest =>
    obtain ⟨key, value⟩ := e
    rw [scalars_cons, ReadsNext]
    by_cases hkey : key = name.chars
    · have hrest := keys_ne hkeys hkey
      subst hkey
      rw [if_pos rfl, firstOther_name, valueOf_self]
      exact own_iff hrest
    · rw [if_neg hkey, firstOther_other hkey, valueOf_of_ne hkey]

end

/-- The value of a setting is returned exactly when it is read right. -/
theorem getSetting_valueOf_iff (entries : List Entry) (name : CString)
    (hkeys : (entries.map Prod.fst).Nodup) :
    (getSetting (some (flatMapping entries)) name).map Lookup.text = some (valueOf name entries) ↔
      ReadsRight name entries := by
  rw [getSetting_flatMapping, Option.some.injEq]
  induction entries with
  | nil => exact ⟨fun _ => trivial, fun _ => rfl⟩
  | cons e rest ih =>
    obtain ⟨key, value⟩ := e
    have hrest := (List.nodup_cons.mp hkeys).2
    rw [scalars_cons, ReadsRight]
    by_cases hkey : key = name.chars
    · have hothers := keys_ne hkeys hkey
      subst hkey
      rw [if_pos rfl, follower_name, valueOf_self]
      exact own_iff hothers
    · rw [if_neg hkey, follower_other hkey, valueOf_of_ne hkey]
      by_cases hvalue : value = name.chars
      · subst hvalue
        rw [if_pos rfl, follower_name]
        exact next_iff hrest
      · rw [if_neg hvalue, follower_other hvalue]
        exact ih hrest

/-- The name `N`. -/
def settingN : CString where
  chars := [78]
  noNul := by decide

/-- In `A: 1, N: 2` the setting `N` is `2`. -/
theorem getSetting_second :
    (getSetting (some (flatMapping [([65], [49]), ([78], [50])])) settingN).map Lookup.text =
      some [50] :=
  (getSetting_valueOf_iff [([65], [49]), ([78], [50])] settingN (by decide)).mpr (by decide)

/-- In `A: N, B: 7, N: 5` the setting `N` is read as `B`. -/
theorem getSetting_redirected : ∃ entries : List Entry, (entries.map Prod.fst).Nodup ∧
    valueOf settingN entries = [53] ∧
    (getSetting (some (flatMapping entries)) settingN).map Lookup.text = some [66] :=
  ⟨[([65], [78]), ([66], [55]), ([78], [53])], by decide, by decide, by decide⟩

end HexrotPxiCom.ConfigPxi
