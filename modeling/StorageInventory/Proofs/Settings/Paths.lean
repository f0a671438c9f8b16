import Mathlib.Tactic
import StorageInventory.Proofs.Text.Pieces
import StorageInventory.Settings.Value

/-!
# Paths of settings

A setting is looked up key by key.  Whatever the configuration holds on the way, one of two things
happens: the keys lead to a value through nested mappings (`Leads`), or they break off at a value
that has nothing under the next key, be it a mapping without that key or no mapping at all
(`BreaksOff`).  In the second case the setting has its default.

* `follow?_eq_some_iff`, `follow?_eq_none_iff` — following keys ends in one of the two,
* `lookup_dotted` — looking up keys that are joined with dots is following them,
* `lookup_path` — what a lookup gives, and how it can be made in two parts.
-/

namespace StorageInventory.Settings

/-! ## One key -/

/-- The first entry whose key is exactly the text has the value. -/
inductive HasEntry (key : Text) (inner : Value) : Entries → Prop
  | first (rest : Entries) : HasEntry key inner ((.text key, inner) :: rest)
  | later {entry : Value × Value} {rest : Entries} (hne : entry.1 ≠ .text key)
      (h : HasEntry key inner rest) : HasEntry key inner (entry :: rest)

/-- A value has nothing under a key: it is a mapping without the key, or no mapping. -/
inductive Lacks (key : Text) : Value → Prop
  | absent {entries : Entries} (h : ∀ entry ∈ entries, entry.1 ≠ .text key) :
      Lacks key (.mapping entries)
  | notMapping {value : Value} (h : value.kind ≠ .mapping) : Lacks key value

namespace Value

/-- A key that an entry has is found there. -/
theorem entry?_cons_self (key : Text) (inner : Value) (rest : Entries) :
    entry? key ((.text key, inner) :: rest) = some inner := if_pos rfl

/-- An entry with another key is passed over. -/
theorem entry?_cons_of_ne {key : Text} {entry : Value × Value} (h : entry.1 ≠ .text key)
    (rest : Entries) : entry? key (entry :: rest) = entry? key rest := by
  obtain ⟨k, v⟩ := entry
  cases k with
  | text t => exact if_neg fun ht => h (congrArg Value.text ht)
  | _ => rfl

/-- What is found under a key is its first entry. -/
theorem entry?_eq_some_iff {key : Text} {inner : Value} {entries : Entries} :
    entry? key entries = some inner ↔ HasEntry key inner entries := by
  induction entries with
  | nil => exact iff_of_false (fun h => nomatch h) (fun h => nomatch h)
  | cons entry rest ih =>
    by_cases hkey : entry.1 = .text key
    · obtain ⟨_, v⟩ := entry
      obtain rfl : _ = Value.text key := hkey
      rw [entry?_cons_self, Option.some.injEq]
      constructor
      · rintro rfl
        exact .first rest
      · intro h
        cases h with
        | first => rfl
        | later hne => exact absurd rfl hne
    · rw [entry?_cons_of_ne hkey, ih]
      refine ⟨.later hkey, fun h => ?_⟩
      cases h with
      | first => exact absurd rfl hkey
      | later _ h => exact h

/-- Nothing is found under a key that no entry has. -/
theorem entry?_eq_none_iff {key : Text} {entries : Entries} :
    entry? key entries = none ↔ ∀ entry ∈ entries, entry.1 ≠ .text key := by
  induction entries with
  | nil => exact iff_of_true rfl (List.forall_mem_nil _)
  | cons entry rest ih =>
    rw [List.forall_mem_cons]
    by_cases hkey : entry.1 = .text key
    · obtain ⟨_, v⟩ := entry
      obtain rfl : _ = Value.text key := hkey
      rw [entry?_cons_self]
      exact iff_of_false (Option.some_ne_none v) fun h => h.1 rfl
    · rw [entry?_cons_of_ne hkey, ih, and_iff_right hkey]

/-- Only a mapping has something under a key. -/
theorem member?_eq_some_iff {key : Text} {value inner : Value} :
    value.member? key = some inner ↔
      ∃ entries, value = .mapping entries ∧ HasEntry key inner entries := by
  cases value with
  | mapping entries => simp [member?, entry?_eq_some_iff]
  | _ => simp [member?]

/-- A value has no member under a key that it lacks, and only then. -/
theorem member?_eq_none_iff {key : Text} {value : Value} :
    value.member? key = none ↔ Lacks key value := by
  cases value with
  | mapping entries =>
    rw [member?, entry?_eq_none_iff]
    refine ⟨.absent, fun h => ?_⟩
    cases h with
    | absent h => exact h
    | notMapping h => exact absurd rfl h
  | moment m => cases m <;> exact iff_of_true rfl (.notMapping (by simp [kind]))
  | _ => exact iff_of_true rfl (.notMapping (by simp [kind]))

end Value

/-! ## Many keys -/

/-- Keys lead from a value to another one: every key but the last has a mapping, in which the next
one is looked up. -/
inductive Leads : List Text → Value → Value → Prop
  | here (value : Value) : Leads [] value value
  | inside {key : Text} {keys : List Text} {entries : Entries} {inner value : Value}
      (hentry : HasEntry key inner entries) (h : Leads keys inner value) :
      Leads (key :: keys) (.mapping entries) value

/-- Keys break off at a value that has nothing under the next of them. -/
inductive BreaksOff : List Text → Value → Prop
  | now {key : Text} {keys : List Text} {value : Value} (h : Lacks key value) :
      BreaksOff (key :: keys) value
  | inside {key : Text} {keys : List Text} {entries : Entries} {inner : Value}
      (hentry : HasEntry key inner entries) (h : BreaksOff keys inner) :
      BreaksOff (key :: keys) (.mapping entries)

namespace Value

/-- Following keys gives the value that they lead to. -/
theorem follow?_eq_some_iff {keys : List Text} {value result : Value} :
    value.follow? keys = some result ↔ Leads keys value result := by
  induction keys generalizing value with
  | nil =>
    rw [follow?, Option.some.injEq]
    constructor
    · rintro rfl
      exact .here value
    · rintro ⟨⟩
      rfl
  | cons key keys ih =>
    rw [follow?, Option.bind_eq_some_iff]
    simp only [member?_eq_some_iff, ih]
    constructor
    · rintro ⟨inner, ⟨entries, rfl, hentry⟩, h⟩
      exact .inside hentry h
    · rintro ⟨⟩
      exact ⟨_, ⟨_, rfl, ‹_›⟩, ‹_›⟩

/-- Following keys gives nothing exactly if they break off. -/
theorem follow?_eq_none_iff {keys : List Text} {value : Value} :
    value.follow? keys = none ↔ BreaksOff keys value := by
  induction keys generalizing value with
  | nil => exact iff_of_false (Option.some_ne_none value) fun h => nomatch h
  | cons key keys ih =>
    rw [follow?]
    cases hmember : value.member? key with
    | none => exact iff_of_true rfl (.now (member?_eq_none_iff.1 hmember))
    | some inner =>
      rw [Option.bind_some, ih]
      constructor
      · intro h
        obtain ⟨entries, rfl, hentry⟩ := member?_eq_some_iff.1 hmember
        exact .inside hentry h
      · rintro (hlacks | ⟨hentry, h⟩)
        · rw [member?_eq_none_iff.2 hlacks] at hmember
          cases hmember
        · rw [member?, entry?_eq_some_iff.2 hentry, Option.some.injEq] at hmember
          exact hmember ▸ h

end Value

/-! ## Lookups -/

/-- Keys with dots between. -/
def dotted (keys : List Text) : Text := ['.'].intercalate keys

variable {keys : List Text}

/-- Looking up keys that are joined with dots is following them. -/
theorem lookup_dotted (hne : keys ≠ []) (hkeys : ∀ key ∈ keys, '.' ∉ key) (entries : Entries)
    (default : Value) :
    lookup entries (dotted keys) default = ((Value.mapping entries).follow? keys).getD default := by
  rw [lookup, dotted, Text.fields_intercalate hkeys hne]

/-- Keys can be looked up in two parts, the second one in the mapping that the first one leads to.
A first part that is missing counts as null here, under which there is nothing either. -/
theorem lookup_append {first rest : List Text} (hfirst : first ≠ []) (hrest : rest ≠ [])
    (hkeys : ∀ key ∈ first ++ rest, '.' ∉ key) (entries : Entries) (default : Value) :
    lookup entries (dotted (first ++ rest)) default =
      match lookup entries (dotted first) .null with
      | .mapping inner => lookup inner (dotted rest) default
      | _ => default := by
  obtain ⟨hkeysFirst, hkeysRest⟩ := List.forall_mem_append.1 hkeys
  rw [lookup_dotted (by simp [hfirst]) hkeys, lookup_dotted hfirst hkeysFirst,
    Value.follow?_append]
  cases (Value.mapping entries).follow? first with
  | none => rfl
  | some value =>
    rw [Option.bind_some, Option.getD_some]
    cases value with
    | mapping inner => exact (lookup_dotted hrest hkeysRest inner default).symm
    | _ =>
      obtain ⟨key, rest, rfl⟩ := List.exists_cons_of_ne_nil hrest
      rfl

/-- A lookup gives the value that the keys lead to, whatever it is, and the default if they break
off; one of the two always happens.  It can be made in two parts wherever the keys are split. -/
theorem lookup_path (hne : keys ≠ []) (hkeys : ∀ key ∈ keys, '.' ∉ key) (entries : Entries)
    (default : Value) :
    (∀ value, Leads keys (.mapping entries) value →
      lookup entries (dotted keys) default = value) ∧
    (BreaksOff keys (.mapping entries) → lookup entries (dotted keys) default = default) ∧
    ((∃ value, Leads keys (.mapping entries) value) ↔ ¬ BreaksOff keys (.mapping entries)) ∧
    ∀ first rest, first ≠ [] → rest ≠ [] → first ++ rest = keys →
      lookup entries (dotted keys) default =
        match lookup entries (dotted first) .null with
        | .mapping inner => lookup inner (dotted rest) default
        | _ => default := by
  refine ⟨fun value hleads => ?_, fun hbreaks => ?_, ?_, ?_⟩
  · rw [lookup_dotted hne hkeys, Value.follow?_eq_some_iff.2 hleads, Option.getD_some]
  · rw [lookup_dotted hne hkeys, Value.follow?_eq_none_iff.2 hbreaks, Option.getD_none]
  · rw [← Value.follow?_eq_none_iff, ← ne_eq, Option.ne_none_iff_exists']
    exact exists_congr fun value => Value.follow?_eq_some_iff.symm
  · rintro first rest hfirst hrest rfl
    exact lookup_append hfirst hrest hkeys entries default

/-- A null is found where it is, and a number has nothing under it. -/
theorem lookup_path_collection :
    let entries : Entries := [(.int 1, .list []), (.text "collection".toList, .mapping
      [(.text "capture_dir".toList, .null), (.text "command_timeout".toList, .int 5)])]
    let toNull := ["collection".toList, "capture_dir".toList]
    let beyond := ["collection".toList, "command_timeout".toList, "deeper".toList]
    let default := Value.text "y".toList
    (toNull ≠ [] ∧ (∀ key ∈ toNull, '.' ∉ key) ∧ Leads toNull (.mapping entries) .null) ∧
      (beyond ≠ [] ∧ (∀ key ∈ beyond, '.' ∉ key) ∧ BreaksOff beyond (.mapping entries)) ∧
      lookup entries "collection.capture_dir".toList default = .null ∧
      lookup entries "collection.command_timeout.deeper".toList default = default := by
  intro entries toNull beyond default
  have hentry : HasEntry "collection".toList (.mapping
      [(.text "capture_dir".toList, .null), (.text "command_timeout".toList, .int 5)]) entries :=
    .later (by simp) (.first [])
  have hleads : Leads toNull (.mapping entries) .null :=
    .inside hentry (.inside (.first _) (.here .null))
  have hbreaks : BreaksOff beyond (.mapping entries) :=
    .inside hentry (.inside (.later (by simp) (.first [])) (.now (.notMapping (by decide))))
  have hnull : toNull ≠ [] ∧ ∀ key ∈ toNull, '.' ∉ key := by decide
  have hbeyond : beyond ≠ [] ∧ ∀ key ∈ beyond, '.' ∉ key := by decide
  exact ⟨⟨hnull.1, hnull.2, hleads⟩, ⟨hbeyond.1, hbeyond.2, hbreaks⟩,
    (lookup_path hnull.1 hnull.2 entries default).1 .null hleads,
    (lookup_path hbeyond.1 hbeyond.2 entries default).2.1 hbreaks⟩

end StorageInventory.Settings
