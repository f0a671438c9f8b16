import Mathlib.Tactic
import StorageInventory.Proofs.Outcome
import StorageInventory.Telling

/-!
# What computations tell

A computation comes to something and adds entries to the journal.  For most of them it does not
matter what was told before: they succeed under a condition, add entries of a kind, and close
certain streams.  Sequences are put together of such computations.

In a language, a computation goes on only as long as there are words for what it tells.  So it comes
to what it comes to without the language, if there are words for everything, and fails otherwise.

* `Telling.Tells` — all that a computation tells is of a kind,
* `Translation.Covers`, `Telling.inLanguage_eq_ok_iff` — when a computation succeeds in a language,
* `Telling.EndsAfter` — how a computation ends after some entries, and what it closes,
* `Telling.Gives` — what a computation comes to has a property.
-/

namespace StorageInventory

namespace Telling

variable {α β : Type} {kind : JournalEntry → Prop} {x : Telling α} {f : α → Telling β}

/-! ## What is there already -/

/-- What there is already is nothing to be told. -/
@[simp] theorem liftM_ok (a : α) : (liftM (Except.ok a : Except Fault α) : Telling α) =
    pure a := rfl

/-- What there is already can be mapped before it is told. -/
@[simp] theorem liftM_map (g : α → β) (outcome : Except Fault α) :
    (liftM (outcome.map g) : Telling β) = g <$> (liftM outcome : Telling α) := by
  cases outcome <;> rfl

/-- A known result is passed on without a trace. -/
theorem of_ok_bind (a : α) (f : α → Telling β) : (of (.ok a) >>= f) = f a := pure_bind a f

/-- A mapped computation tells what it tells. -/
theorem run_map (g : α → β) (x : Telling α) (before : Journal) :
    (g <$> x).run before = ((x.run before).1.map g, (x.run before).2) := by
  rw [map_eq_pure_bind, run_bind]
  rcases x.run before with ⟨fault | a, entries⟩
  · rfl
  · exact Prod.ext rfl (List.append_nil entries)

/-! ## What is told -/

/-- All entries that the computation adds are of a kind, whatever was told before. -/
def Tells (kind : JournalEntry → Prop) (x : Telling α) : Prop :=
  ∀ before, ∀ entry ∈ (x.run before).2, kind entry

/-- A sequence tells what its parts tell. -/
theorem Tells.bind (hx : x.Tells kind) (hf : ∀ a, (f a).Tells kind) : (x >>= f).Tells kind := by
  intro before
  have hfirst := hx before
  rw [run_bind]
  rcases hrun : x.run before with ⟨fault | a, entries⟩
  · rwa [hrun] at hfirst
  · rw [hrun] at hfirst
    exact List.forall_mem_append.2 ⟨hfirst, hf a _⟩

/-- Mapping tells nothing. -/
theorem Tells.map (hx : x.Tells kind) (g : α → β) : (g <$> x).Tells kind := by
  intro before
  rw [run_map]
  exact hx before

/-- In a language, no more is told than without it. -/
theorem Tells.inLanguage (hx : x.Tells kind) (t : Translation) : (x.inLanguage t).Tells kind := by
  intro before entry hentry
  rw [Telling.inLanguage] at hentry
  dsimp only at hentry
  split at hentry
  · exact hx before entry ((List.takeWhile_prefix _).subset hentry)
  · exact hx before entry hentry

/-- Going on after some entries tells what it would tell at the beginning. -/
theorem Tells.after (hx : x.Tells kind) (before : Journal) : (x.after before).Tells kind :=
  fun more => hx (before ++ more)

end Telling

/-! ## Words in a language -/

/-- The language has words for all entries. -/
def Translation.Covers (t : Translation) (entries : Journal) : Prop :=
  ∀ entry ∈ entries, entry.fault? t = none

/-- Every language has words for the entry. -/
def JournalEntry.IsPlain (entry : JournalEntry) : Prop := ∀ t : Translation, entry.fault? t = none

/-- No words have to be looked up for a notice that is not translated. -/
theorem JournalEntry.isPlain_notice {notice : Log.Notice} (h : notice.isTranslated = false) :
    (JournalEntry.notice notice).IsPlain := by
  intro t
  rw [JournalEntry.fault?, Log.Notice.wording, h]
  rfl

/-- Any language has words for plain entries, since they need none. -/
theorem Translation.covers_of_isPlain {entries : Journal}
    (h : ∀ entry ∈ entries, JournalEntry.IsPlain entry) (t : Translation) : t.Covers entries :=
  fun entry hentry => h entry hentry t

namespace Telling

variable {α β : Type} {x : Telling α} {f : α → Telling β} {t : Translation} {before : Journal}

/-- Where the language has all words, a computation comes to what it comes to without it. -/
theorem run_inLanguage_of_covers (h : t.Covers (x.run before).2) :
    (x.inLanguage t).run before =
      ((x.run before).1.mapError (Fault.inLanguage t), (x.run before).2) := by
  have hnone : (x.run before).2.findSome? (·.fault? t) = none := List.findSome?_eq_none_iff.2 h
  rw [Telling.inLanguage]
  dsimp only
  rw [hnone]

/-- In a language, a computation succeeds exactly if it does so without it and the language has
words for all that it tells. -/
theorem inLanguage_eq_ok_iff {a : α} :
    ((x.inLanguage t).run before).1 = .ok a ↔
      (x.run before).1 = .ok a ∧ t.Covers (x.run before).2 := by
  by_cases hcovers : t.Covers (x.run before).2
  · rw [run_inLanguage_of_covers hcovers, and_iff_left hcovers]
    exact mapError_eq_ok_iff
  · refine iff_of_false ?_ fun h => hcovers h.2
    obtain ⟨fault, hfault⟩ := Option.ne_none_iff_exists'.1 fun hnone =>
      hcovers (List.findSome?_eq_none_iff.1 hnone)
    rw [Telling.inLanguage]
    dsimp only
    rw [hfault]
    exact fun h => nomatch h

/-- A telling succeeds in a language if it does without one and the language has words for all of
it. -/
theorem inLanguage_isOk_iff :
    ((x.inLanguage t).run before).1.isOk = true ↔
      (x.run before).1.isOk = true ∧ t.Covers (x.run before).2 := by
  simp only [isOk_iff, inLanguage_eq_ok_iff, exists_and_right]

/-- Where it succeeds, it tells the same. -/
theorem journal_inLanguage (h : ((x.inLanguage t).run before).1.isOk = true) :
    ((x.inLanguage t).run before).2 = (x.run before).2 := by
  rw [run_inLanguage_of_covers (inLanguage_isOk_iff.1 h).2]

/-! ## Computations that end in one way -/

/-- After some entries, the computation succeeds under a condition, tells only what needs no words,
and closes just some streams if it succeeds. -/
structure EndsAfter (before : Journal) (x : Telling α) (well : Prop) (closing : Int → Prop) :
    Prop where
  isOk : (x.run before).1.isOk = true ↔ well
  plain : ∀ entry ∈ (x.run before).2, JournalEntry.IsPlain entry
  closes : (x.run before).1.isOk = true → ∀ n,
    ((before ++ (x.run before).2).closes n = true ↔ before.closes n = true ∨ closing n)

variable {well more : Prop} {closing further : Int → Prop}

/-- How a telling ends can be said in other words, those about closing only where it ends well. -/
theorem EndsAfter.congr {well' : Prop} {closing' : Int → Prop}
    (h : x.EndsAfter before well closing) (hwell : well ↔ well')
    (hclosing : well → ∀ n, closing n ↔ closing' n) : x.EndsAfter before well' closing' :=
  ⟨h.isOk.trans hwell, h.plain, fun hok n =>
    (h.closes hok n).trans (or_congr_right (hclosing (h.isOk.1 hok) n))⟩

/-- Only the run after the entries counts. -/
theorem EndsAfter.of_run {y : Telling α} (h : y.EndsAfter before well closing)
    (hrun : x.run before = y.run before) : x.EndsAfter before well closing := by
  obtain ⟨hok, hplain, hcloses⟩ := h
  refine ⟨?_, ?_, ?_⟩
  · rwa [hrun]
  · rwa [hrun]
  · rwa [hrun]

/-- What is known beforehand tells nothing and closes nothing. -/
theorem endsAfter_of (before : Journal) (outcome : Except Fault α) :
    (of outcome).EndsAfter before (outcome.isOk = true) fun _ => False := by
  refine ⟨Iff.rfl, List.forall_mem_nil _, fun _ n => ?_⟩
  rw [run_of, List.append_nil, or_false]

/-- What is simply returned ends well and closes nothing. -/
theorem endsAfter_pure (before : Journal) (a : α) :
    (pure a : Telling α).EndsAfter before True fun _ => False :=
  (endsAfter_of before (.ok a)).congr (iff_of_true rfl trivial) fun _ _ => Iff.rfl

/-- A fault does not end well. -/
theorem endsAfter_throw (before : Journal) (fault : Fault) :
    (throw fault : Telling α).EndsAfter before False fun _ => False :=
  (endsAfter_of before (.error fault)).congr (iff_of_false Bool.false_ne_true not_false)
    fun _ _ => Iff.rfl

/-- Entries that need no words close what they say. -/
theorem endsAfter_note (before : Journal) {entries : Journal}
    (h : ∀ entry ∈ entries, JournalEntry.IsPlain entry) :
    (note entries).EndsAfter before True fun n => entries.closes n = true := by
  refine ⟨iff_of_true rfl trivial, h, fun _ n => ?_⟩
  rw [Journal.closes, List.any_append, Bool.or_eq_true]
  exact Iff.rfl

/-- A notice that is not translated ends well and closes nothing. -/
theorem endsAfter_tell (before : Journal) {notice : Log.Notice} (h : notice.isTranslated = false) :
    (tell notice).EndsAfter before True fun _ => False :=
  (endsAfter_note before (List.forall_mem_singleton.2 (JournalEntry.isPlain_notice h))).congr
    Iff.rfl fun _ _ => iff_of_false Bool.false_ne_true not_false

/-- A sequence succeeds if both of its parts do, and closes what they close.  The second part is
only ever run with what the first one comes to. -/
theorem EndsAfter.bind_run (hx : x.EndsAfter before well closing)
    (hf : ∀ a, (x.run before).1 = .ok a → ∀ entries, (f a).EndsAfter entries more further) :
    (x >>= f).EndsAfter before (well ∧ more) fun n => closing n ∨ further n := by
  obtain ⟨hok, hplain, hcloses⟩ := hx
  rcases hrun : x.run before with ⟨fault | a, entries⟩
  -- a fault of the first part is that of both
  · have hbind : (x >>= f).run before = (.error fault, entries) := by rw [run_bind, hrun]
    rw [hrun] at hok hplain
    refine ⟨?_, ?_, fun h => ?_⟩
    · rw [hbind]
      exact iff_of_false Bool.false_ne_true fun h => Bool.false_ne_true (hok.2 h.1)
    · rwa [hbind]
    · rw [hbind] at h
      exact absurd h Bool.false_ne_true
  · have hbind : (x >>= f).run before = (((f a).run (before ++ entries)).1,
        entries ++ ((f a).run (before ++ entries)).2) := by rw [run_bind, hrun]
    rw [hrun] at hok hplain hcloses hf
    obtain ⟨hmore, hmoreplain, hfurther⟩ := hf a rfl (before ++ entries)
    have hfirst : well := hok.1 rfl
    refine ⟨?_, ?_, fun h n => ?_⟩
    · rw [hbind, and_iff_right hfirst]
      exact hmore
    · rw [hbind]
      exact List.forall_mem_append.2 ⟨hplain, hmoreplain⟩
    · rw [hbind] at h ⊢
      rw [← List.append_assoc, hfurther h n, hcloses rfl n, or_assoc]

/-- Where the second part ends alike whatever it is run with, what the first one comes to does not
matter. -/
theorem EndsAfter.bind (hx : x.EndsAfter before well closing)
    (hf : ∀ a entries, (f a).EndsAfter entries more further) :
    (x >>= f).EndsAfter before (well ∧ more) fun n => closing n ∨ further n :=
  hx.bind_run fun a _ => hf a

/-- To tell a notice that is not translated, and then return something, ends well and closes
nothing. -/
theorem endsAfter_tell_pure (before : Journal) {notice : Log.Notice}
    (h : notice.isTranslated = false) (a : α) :
    (tell notice >>= fun _ => pure a).EndsAfter before True fun _ => False :=
  ((endsAfter_tell before h).bind fun _ entries => endsAfter_pure entries a).congr
    (and_self_iff) fun _ _ => or_self_iff

/-- What comes of it is looked at: this closes nothing. -/
theorem EndsAfter.bind_of (hx : x.EndsAfter before well closing) (g : α → Except Fault β) :
    (x >>= fun a => of (g a)).EndsAfter before
      (well ∧ ∀ a, (x.run before).1 = .ok a → (g a).isOk = true) closing := by
  have hlook : ∀ a, (x.run before).1 = .ok a → ∀ entries, (of (g a)).EndsAfter entries
      (∀ b, (x.run before).1 = .ok b → (g b).isOk = true) fun _ => False := by
    intro a ha entries
    refine (endsAfter_of entries (g a)).congr ?_ fun _ _ => Iff.rfl
    exact ⟨fun h b hb => Except.ok.inj (ha.symm.trans hb) ▸ h, fun h => h a ha⟩
  exact (hx.bind_run hlook).congr Iff.rfl fun _ _ => or_iff_left not_false

/-- Mapping the result changes neither how a telling ends nor what it closes. -/
theorem EndsAfter.map (hx : x.EndsAfter before well closing) (g : α → β) :
    (g <$> x).EndsAfter before well closing := by
  have hok : ((x.run before).1.map g).isOk = (x.run before).1.isOk := by
    cases (x.run before).1 <;> rfl
  refine ⟨?_, ?_, ?_⟩
  · rw [run_map, hok]
    exact hx.isOk
  · rw [run_map]
    exact hx.plain
  · rw [run_map, hok]
    exact hx.closes

/-- What needs no words is the same in every language. -/
theorem EndsAfter.inLanguage (hx : x.EndsAfter before well closing) (t : Translation) :
    (x.inLanguage t).EndsAfter before well closing := by
  have hcovers := Translation.covers_of_isPlain hx.plain t
  have hrun := run_inLanguage_of_covers hcovers
  have hok := (inLanguage_isOk_iff (t := t)).trans (and_iff_left hcovers)
  refine ⟨hok.trans hx.isOk, ?_, fun h => ?_⟩
  · rw [hrun]
    exact hx.plain
  · rw [hrun]
    exact hx.closes (hok.1 h)

/-- What a computation comes to has a property. -/
def Gives (x : Telling α) (P : α → Prop) : Prop :=
  ∀ before a, (x.run before).1 = .ok a → P a

/-- What holds of all values of a function holds of what a mapped telling gives. -/
theorem gives_map {g : α → β} {P : β → Prop} (h : ∀ a, P (g a)) : (g <$> x).Gives P := by
  intro before b hb
  rw [run_map] at hb
  obtain ⟨a, -, rfl⟩ := map_eq_ok_iff.1 hb
  exact h a

/-- What the second step always gives is what both steps together give. -/
theorem gives_bind {P : β → Prop} (h : ∀ a, (f a).Gives P) : (x >>= f).Gives P := by
  intro before b hb
  rw [run_bind] at hb
  rcases hrun : x.run before with ⟨fault | a, entries⟩
  · rw [hrun] at hb
    cases hb
  · rw [hrun] at hb
    exact h a _ b hb

/-- A language changes what is told and not what is given. -/
theorem Gives.inLanguage {P : α → Prop} (h : x.Gives P) (t : Translation) :
    (x.inLanguage t).Gives P :=
  fun before a ha => h before a (inLanguage_eq_ok_iff.1 ha).1

end Telling

end StorageInventory
