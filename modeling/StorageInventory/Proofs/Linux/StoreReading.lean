import Mathlib.Tactic
import StorageInventory.Proofs.CommandLine.Settings
import StorageInventory.Proofs.Linux.MountEntries
import StorageInventory.Proofs.Telling

/-!
# When file stores can be read

The file stores are read from places that the settings name.  They need the clock, places that can
be read, and the space of every mount that is shown; the descriptor counts need one place more.
Where a setting is the number of a stream that is open, the stream is closed when it has been read,
and nothing else closes any.

* `endsAfter_readLines` — the lines of a place,
* `Places.IsReady`, `fileStores_endsAfter` — what the stores need, and what they close,
* `readStores_endsAfter` — the stores with the descriptor counts.
-/

namespace StorageInventory

open Settings (Value)

namespace Linux

open Host Telling

variable (host : StorageInventory.Host)

/-- Nothing is closed by listing a directory. -/
theorem endsAfter_readUuids (tree : Tree) (opened : Descriptors) (place : Value)
    (before : Journal) :
    (readUuids tree opened place).EndsAfter before (isListable place = true) fun _ => False := by
  rw [readUuids, ← canGoOn_listSetting tree opened place]
  cases listSetting tree.list opened place with
  | ok found =>
    exact (endsAfter_pure before _).congr (iff_of_true trivial rfl) fun _ _ => Iff.rfl
  | error fault =>
    rw [canGoOn]
    dsimp only
    cases fault.isSystem with
    | true =>
      exact (endsAfter_tell_pure before rfl _).congr (iff_of_true trivial rfl) fun _ _ => Iff.rfl
    | false => exact (endsAfter_throw before fault).congr (by simp) fun _ _ => Iff.rfl

/-- Nothing is closed when lines are made of what was read. -/
theorem endsAfter_readLinesFrom (shown : Value) (found : Except Fault (List UInt8))
    (before : Journal) :
    (readLinesFrom shown found).EndsAfter before (canGoOn found = true) fun _ => False := by
  cases found with
  | ok bytes => exact (endsAfter_pure before _).congr (iff_of_true trivial rfl) fun _ _ => Iff.rfl
  | error fault =>
    rw [canGoOn, readLinesFrom]
    cases fault.isSystem with
    | true =>
      exact (endsAfter_tell_pure before rfl _).congr (iff_of_true trivial rfl) fun _ _ => Iff.rfl
    | false => exact (endsAfter_throw before fault).congr (by simp) fun _ _ => Iff.rfl

/-- Lines are read where the setting can be read.  If it is the number of a stream that is open, the
stream is closed. -/
theorem endsAfter_readLines (place : Value) (before : Journal) :
    (readLines host place).EndsAfter before (isReadable place = true)
      (Closes host.opened place) := by
  let opened : Descriptors := fun n => if before.closes n then none else host.opened n
  have hplain : ∀ entry ∈ closedBy opened place, JournalEntry.IsPlain entry := by
    rw [closedBy]
    split
    · exact List.forall_mem_nil _
    · split
      · exact List.forall_mem_singleton.2 fun _ => rfl
      · exact List.forall_mem_nil _
  have hrun : (readLines host place).run before =
      (note (closedBy opened place) >>= fun _ =>
        readLinesFrom place (readSetting (host.follow before host.tree).read opened place)).run
          before := by
    simp [readLines, Host.files, Host.descriptors, run_bind, opened]
  have hends := (endsAfter_note before hplain).bind fun _ entries =>
    endsAfter_readLinesFrom place
      (readSetting (host.follow before host.tree).read opened place) entries
  have hclosing : ∀ n, opened n = if before.closes n then none else host.opened n := fun _ => rfl
  refine EndsAfter.of_run ⟨?_, hends.plain, fun hok n => ?_⟩ hrun
  · rw [hends.isOk, true_and, canGoOn_readSetting]
  · rw [hends.closes hok n, or_false, closes_closedBy_iff, Closes, Closes, hclosing]
    -- what was closed before is not open any more
    cases before.closes n <;> simp

/-- The listing of mounts is read where both of its places can be. -/
theorem endsAfter_listing (places : Places) (before : Journal) :
    (places.listing host).EndsAfter before
      (isListable places.uuids = true ∧ isReadable places.mounts = true)
      (Closes host.opened places.mounts) := by
  let opened : Descriptors := fun n => if before.closes n then none else host.opened n
  have hrun : (places.listing host).run before =
      (readUuids (host.follow before host.tree) opened places.uuids >>= fun uuids =>
        (readLines host places.mounts).toLines >>= fun rows => pure (uuids, rows)).run before := by
    simp [Places.listing, Host.files, Host.descriptors, run_bind, opened]
  have hrows := fun (uuids : Table Text) entries =>
    ((endsAfter_readLines host places.mounts entries).map (·.getD [])).bind fun rows after =>
      endsAfter_pure after (uuids, rows)
  have hends := (endsAfter_readUuids (host.follow before host.tree) opened places.uuids before).bind
    hrows
  exact (hends.of_run hrun).congr (by rw [and_true]) fun _ n => by rw [false_or, or_false]

/-- The rows of the mount table that are shown, as a run reads them. -/
def Places.shownRows (places : Places) : List Text :=
  match (places.listing host).outcome with
  | .ok (_, rows) => rows.filter isShown
  | .error _ => []

/-- What the file stores need: the clock, two places that can be read, and the space of every mount
that is shown. -/
@[mk_iff]
structure Places.IsReady (places : Places) : Prop where
  clock : host.milliseconds.isOk = true
  uuids : isListable places.uuids = true
  mounts : isReadable places.mounts = true
  space : ∀ row ∈ places.shownRows host, canGoOn (host.spaceOf (mountPath row)) = true

/-- The file stores need what they need, and close the mount table if it is a stream. -/
theorem fileStores_endsAfter (places : Places) :
    (places.fileStores host).EndsAfter [] (places.IsReady host)
      (Closes host.opened places.mounts) := by
  have hlisting := endsAfter_listing host places []
  cases hclock : host.milliseconds with
  | error fault =>
    have hrun : (places.fileStores host).run [] =
        (throw fault : Telling (List FileStore)).run [] := by
      rw [Places.fileStores, hclock]
      rfl
    have hnot : ¬ (Except.error fault : Except Fault Int).isOk = true := Bool.false_ne_true
    exact ((endsAfter_throw [] fault).of_run hrun).congr
      (iff_of_false not_false fun h => hnot (hclock ▸ h.clock)) fun h => h.elim
  | ok timestamp =>
    have hrun : (places.fileStores host).run [] = (places.listing host >>= fun found =>
        of (readMounts found.1 host.spaceOf found.2)).run [] := by
      rw [Places.fileStores, hclock]
      rfl
    refine ((hlisting.bind_of fun found => readMounts found.1 host.spaceOf found.2).of_run
      hrun).congr ?_ fun _ _ => Iff.rfl
    have htold : (Except.ok timestamp : Except Fault Int).isOk = true := rfl
    rw [Places.isReady_iff, hclock, and_iff_right htold, ← and_assoc]
    refine and_congr_right fun hread => ?_
    obtain ⟨⟨uuids, rows⟩, hfound⟩ := isOk_iff.1 (hlisting.isOk.2 hread)
    -- reading the rows does not depend on which UUIDs were found
    have hshown : places.shownRows host = rows.filter isShown := by
      rw [Places.shownRows, Telling.outcome, hfound]
    rw [hshown, ← @exists_readMounts_iff uuids host.spaceOf rows, ← isOk_iff, hfound]
    exact ⟨fun h => h _ rfl, fun h found heq => Except.ok.inj heq ▸ h⟩

/-- A descriptor count needs its place. -/
theorem endsAfter_descriptorCount (places : Places) (index : Int) (hlow : 0 ≤ index)
    (hhigh : index < descriptorFields) (before : Journal) :
    (places.descriptorCount host index).EndsAfter before (isReadable places.descriptors = true)
      (Closes host.opened places.descriptors) := by
  have hindex : ¬ (index < 0 || (descriptorFields : Int) ≤ index) = true := by
    simp only [Bool.or_eq_true, decide_eq_true_eq]
    omega
  have hlines := (endsAfter_readLines host places.descriptors before).map (·.getD [])
  rw [Places.descriptorCount, readDescriptors]
  simp only [if_neg hindex]
  refine EndsAfter.congr (hlines.bind fun lines entries =>
    (?_ : Telling.EndsAfter entries _ True fun _ => False)) (by rw [and_true])
    fun _ n => by rw [or_false]
  cases lines with
  | nil => exact endsAfter_pure entries 0
  | cons line rest =>
    dsimp only
    cases descriptorField? line index.toNat with
    | some n => exact endsAfter_pure entries n
    | none => exact endsAfter_tell_pure entries rfl 0

/-- The stores with the descriptor counts need all of the places. -/
theorem readStores_endsAfter (places : Places) :
    (Inventory.readStores host places).EndsAfter []
      (places.IsReady host ∧ isReadable places.descriptors = true)
      fun n => Closes host.opened places.mounts n ∨ Closes host.opened places.descriptors n := by
  have hread := (fileStores_endsAfter host places).bind fun stores entries =>
    (endsAfter_descriptorCount host places openIndex (by decide) (by decide) entries).bind
      fun openDescriptors entries =>
    (endsAfter_descriptorCount host places mostIndex (by decide) (by decide) entries).bind
      fun mostDescriptors entries =>
    endsAfter_pure entries ({ stores, openDescriptors, mostDescriptors } : Inventory.Stores)
  exact hread.congr (by rw [and_true, and_self]) fun _ n => by rw [or_false, or_self]

end Linux

end StorageInventory
