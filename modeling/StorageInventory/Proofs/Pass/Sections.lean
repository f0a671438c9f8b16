import Mathlib.Tactic
import StorageInventory.Pass.DiskGeometry
import StorageInventory.Proofs.Text.Words

/-!
# Sections of a listing

A listing is cut at the lines that open a section.  What stands before the first of them is its
lead; each section is an opening line and the lines up to the next one.  Both geometry listings are
cut like this into blocks, and the block of a disk again into its partitions.

* `sections_eq_iff` — the cut is the only way to write the listing as a lead and sections,
* `map_device_blocksOf` — the blocks of a listing are named by its headers,
* `standing_head`, `standing_line` — where a line stands, line by line.

A scan that goes line by line is compared with the cut by induction on the lines, by `sections_head`
and `sections_line`.
-/

namespace StorageInventory.Pass

open Text

/-- Cut a listing: its lead, and its sections with their opening lines. -/
def sections (opens : Text → Bool) : List Text → List Text × List (Text × List Text)
  | [] => ([], [])
  | line :: rest =>
    let (lead, more) := sections opens rest
    if opens line then ([], (line, lead) :: more) else (line :: lead, more)

variable {opens : Text → Bool}

@[simp] theorem sections_nil (opens : Text → Bool) : sections opens [] = ([], []) := rfl

/-- An opening line has the lines up to the next one as its section. -/
theorem sections_head {line : Text} (h : opens line = true) (rest : List Text) :
    sections opens (line :: rest) =
      ([], (line, (sections opens rest).1) :: (sections opens rest).2) := by
  simp [sections, h]

/-- Any other line is part of the lead. -/
theorem sections_line {line : Text} (h : opens line = false) (rest : List Text) :
    sections opens (line :: rest) = (line :: (sections opens rest).1, (sections opens rest).2) := by
  simp [sections, h]

/-- What stands behind a line that opens is not in the lead of what stands in front of it. -/
theorem fst_sections_append_head {opens : Text → Bool} {line : Text} (h : opens line = true)
    (front rest : List Text) :
    (sections opens (front ++ line :: rest)).1 = (sections opens front).1 := by
  induction front with
  | nil => rw [List.nil_append, sections_head h, sections_nil]
  | cons first front ih =>
    rw [List.cons_append]
    cases hfirst : opens first with
    | true => rw [sections_head hfirst, sections_head hfirst]
    | false => rw [sections_line hfirst, sections_line hfirst, ih]

/-- Lines that open nothing belong to the lead. -/
theorem sections_lead_append {lead : List Text} (h : ∀ line ∈ lead, opens line = false)
    (rest : List Text) :
    sections opens (lead ++ rest) = (lead ++ (sections opens rest).1, (sections opens rest).2) := by
  induction lead with
  | nil => rfl
  | cons line lead ih =>
    rw [List.cons_append, sections_line (h line (by simp)),
      ih fun l hl => h l (List.mem_cons_of_mem _ hl), List.cons_append]

/-- The lines of a section. -/
def sectionLines (s : Text × List Text) : List Text := s.1 :: s.2

/-- The section begins with a line that opens it and goes on with lines that open none. -/
def IsSection (opens : Text → Bool) (s : Text × List Text) : Prop :=
  opens s.1 = true ∧ ∀ line ∈ s.2, opens line = false

/-- Sections that are put one after the other are found again. -/
theorem sections_flatMap {parts : List (Text × List Text)}
    (h : ∀ s ∈ parts, IsSection opens s) :
    sections opens (parts.flatMap sectionLines) = ([], parts) := by
  induction parts with
  | nil => rfl
  | cons s parts ih =>
    have hs := h s (by simp)
    rw [List.flatMap_cons, sectionLines, List.cons_append, sections_head hs.1,
      sections_lead_append hs.2, ih fun p hp => h p (List.mem_cons_of_mem _ hp), List.append_nil]

/-- Nothing opens in the lead of a listing, and what it is cut into are sections. -/
theorem isSection_of_mem_sections (opens : Text → Bool) (lines : List Text) :
    (∀ line ∈ (sections opens lines).1, opens line = false) ∧
      ∀ s ∈ (sections opens lines).2, IsSection opens s := by
  induction lines with
  | nil => simp
  | cons line rest ih =>
    by_cases h : opens line = true
    · rw [sections_head h]
      refine ⟨by simp, ?_⟩
      intro s hs
      rcases List.mem_cons.1 hs with rfl | hs
      · exact ⟨h, ih.1⟩
      · exact ih.2 s hs
    · have h : opens line = false := by simpa using h
      rw [sections_line h]
      refine ⟨fun l hl => ?_, ih.2⟩
      rcases List.mem_cons.1 hl with rfl | hl
      · exact h
      · exact ih.1 l hl

/-- The lead and the sections make up the listing. -/
theorem append_sections (opens : Text → Bool) (lines : List Text) :
    (sections opens lines).1 ++ (sections opens lines).2.flatMap sectionLines = lines := by
  induction lines with
  | nil => rfl
  | cons line rest ih =>
    by_cases h : opens line = true
    · rw [sections_head h, List.nil_append, List.flatMap_cons, sectionLines, List.cons_append, ih]
    · rw [sections_line (by simpa using h), List.cons_append, ih]

/-- The cut is the only way to write a listing as a lead and sections. -/
theorem sections_eq_iff {lines lead : List Text} {parts : List (Text × List Text)} :
    sections opens lines = (lead, parts) ↔
      lines = lead ++ parts.flatMap sectionLines ∧ (∀ line ∈ lead, opens line = false) ∧
        ∀ s ∈ parts, IsSection opens s := by
  constructor
  · intro h
    have happend := append_sections opens lines
    have hsection := isSection_of_mem_sections opens lines
    rw [h] at happend hsection
    exact ⟨happend.symm, hsection⟩
  · rintro ⟨rfl, hlead, hparts⟩
    rw [sections_lead_append hlead, sections_flatMap hparts, List.append_nil]

/-- The opening lines of the sections are all the lines that open one. -/
theorem map_fst_sections (opens : Text → Bool) (lines : List Text) :
    (sections opens lines).2.map Prod.fst = lines.filter opens := by
  induction lines with
  | nil => rfl
  | cons line rest ih =>
    by_cases h : opens line = true
    · rw [sections_head h, List.map_cons, ih, List.filter_cons_of_pos h]
    · rw [sections_line (by simpa using h), ih, List.filter_cons_of_neg h]

/-- Lines that are changed before the cut are cut at the same places. -/
theorem sections_map (opens : Text → Bool) (f : Text → Text) (lines : List Text) :
    sections opens (lines.map f) =
      ((sections (opens ∘ f) lines).1.map f,
        (sections (opens ∘ f) lines).2.map fun s => (f s.1, s.2.map f)) := by
  induction lines with
  | nil => rfl
  | cons line rest ih =>
    by_cases h : opens (f line) = true
    · have h' : (opens ∘ f) line = true := h
      rw [List.map_cons, sections_head h, sections_head h', ih]
      rfl
    · have h : opens (f line) = false := by simpa using h
      have h' : (opens ∘ f) line = false := h
      rw [List.map_cons, sections_line h, sections_line h', ih]
      rfl

/-! ## Lines that stand in sections -/

/-- The lines that stand in a section whose opening line is kept.  Those of the lead are among them
if the listing goes on in such a section. -/
def standing (opens keep : Text → Bool) (isOpen : Bool) (lines : List Text) : List Text :=
  (if isOpen then (sections opens lines).1 else []) ++
    ((sections opens lines).2.filter fun s => keep s.1).flatMap Prod.snd

@[simp] theorem standing_nil (opens keep : Text → Bool) (isOpen : Bool) :
    standing opens keep isOpen [] = [] := by
  simp [standing]

/-- An opening line ends the section before it, and does not stand in its own. -/
theorem standing_head {line : Text} (h : opens line = true) (keep : Text → Bool) (isOpen : Bool)
    (rest : List Text) :
    standing opens keep isOpen (line :: rest) = standing opens keep (keep line) rest := by
  rw [standing, sections_head h, standing, ite_self, List.nil_append, List.filter_cons]
  split <;> rfl

/-- Any other line stands in the section that is open. -/
theorem standing_line {line : Text} (h : opens line = false) (keep : Text → Bool) (isOpen : Bool)
    (rest : List Text) :
    standing opens keep isOpen (line :: rest) =
      (if isOpen then [line] else []) ++ standing opens keep isOpen rest := by
  rw [standing, sections_line h, standing]
  split <;> rfl

/-! ## Blocks -/

/-- A block: the device that its header names, and its lines, trimmed. -/
structure Block where
  device : Text
  body : List Text
  deriving DecidableEq

/-- The block that a section of trimmed lines is. -/
def Block.ofSection (s : Text × List Text) : Block := ⟨lastToken s.1, s.2⟩

/-- The blocks of a geometry listing. -/
def blocksOf (lines : List Text) : List Block :=
  (sections isBlockHeader (lines.map trim)).2.map Block.ofSection

/-- A header opens a block, whose body is what stands before the next one. -/
theorem blocksOf_header {raw : Text} (h : isBlockHeader (trim raw) = true) (rest : List Text) :
    blocksOf (raw :: rest) =
      ⟨lastToken raw, (sections isBlockHeader (rest.map trim)).1⟩ :: blocksOf rest := by
  rw [blocksOf, List.map_cons, sections_head h, List.map_cons, Block.ofSection, lastToken_trim,
    blocksOf]

/-- A line that is no header and follows none belongs to no block. -/
theorem blocksOf_line {raw : Text} (h : isBlockHeader (trim raw) = false) (rest : List Text) :
    blocksOf (raw :: rest) = blocksOf rest := by
  rw [blocksOf, List.map_cons, sections_line h, blocksOf]

/-- The block that a header opens in front of the other lines. -/
def blockAt (header : Text) (rest : List Text) : Block :=
  ⟨lastToken header, (sections isBlockHeader (rest.map trim)).1⟩

/-- Every block of a listing has a header in it, with the blocks before it in front. -/
theorem exists_header {lines : List Text} {before after : List Block} {b : Block}
    (h : blocksOf lines = before ++ b :: after) :
    ∃ front header rest, lines = front ++ header :: rest ∧ isBlockHeader (trim header) = true ∧
      blocksOf front = before ∧ b = blockAt header rest := by
  induction lines generalizing before with
  | nil => simp [blocksOf] at h
  | cons raw lines ih =>
    cases hraw : isBlockHeader (trim raw) with
    | false =>
      rw [blocksOf_line hraw] at h
      obtain ⟨front, header, rest, rfl, hheader, hfront, hb⟩ := ih h
      exact ⟨raw :: front, header, rest, rfl, hheader, (blocksOf_line hraw front).trans hfront, hb⟩
    | true =>
      rw [blocksOf_header hraw] at h
      cases before with
      | nil =>
        obtain ⟨rfl, -⟩ := List.cons.inj h
        exact ⟨[], raw, lines, rfl, hraw, rfl, rfl⟩
      | cons first before =>
        obtain ⟨rfl, hmore⟩ := List.cons.inj h
        obtain ⟨front, header, rest, rfl, hheader, hfront, hb⟩ := ih hmore
        refine ⟨raw :: front, header, rest, rfl, hheader, ?_, hb⟩
        -- the first block ends in front of the header that was found
        rw [blocksOf_header hraw, hfront, List.map_append, List.map_cons,
          fst_sections_append_head hheader]

/-- A line names a device if it is a header whose last word is that device. -/
def Names (line device : Text) : Prop := isBlockHeader (trim line) = true ∧ lastToken line = device

/-- The blocks are named by the headers of the listing, in order. -/
theorem map_device_blocksOf (lines : List Text) :
    (blocksOf lines).map Block.device =
      (lines.filter fun line => isBlockHeader (trim line)).map lastToken := by
  have hdevice : Block.device ∘ Block.ofSection = lastToken ∘ Prod.fst := rfl
  rw [blocksOf, List.map_map, hdevice, ← List.map_map, map_fst_sections, List.filter_map,
    List.map_map]
  exact List.map_congr_left fun line _ => lastToken_trim line

/-- A listing has a block for a device exactly if a line names the device. -/
theorem exists_mem_blocksOf_iff {lines : List Text} {device : Text} :
    (∃ b ∈ blocksOf lines, b.device = device) ↔ ∃ line ∈ lines, Names line device := by
  rw [← List.mem_map, map_device_blocksOf]
  simp [Names, and_assoc]

/-- The blocks whose devices are in scope. -/
def kept (valid : Text → Bool) (blocks : List Block) : List Block :=
  blocks.filter fun b => valid b.device

/-- The devices of the blocks kept are those in scope that a header names. -/
theorem mem_map_device_kept {valid : Text → Bool} {lines : List Text} {device : Text} :
    device ∈ (kept valid (blocksOf lines)).map Block.device ↔
      valid device = true ∧ ∃ line ∈ lines, Names line device := by
  rw [← exists_mem_blocksOf_iff, List.mem_map]
  constructor
  · rintro ⟨b, hb, rfl⟩
    obtain ⟨hb, hvalid⟩ := List.mem_filter.1 hb
    exact ⟨hvalid, b, hb, rfl⟩
  · rintro ⟨hvalid, b, hb, rfl⟩
    exact ⟨b, List.mem_filter.2 ⟨hb, hvalid⟩, rfl⟩

/-- A block in scope is kept. -/
theorem kept_cons_of_valid {valid : Text → Bool} {b : Block} (h : valid b.device = true)
    (blocks : List Block) : kept valid (b :: blocks) = b :: kept valid blocks := by
  simp [kept, h]

/-- A block out of scope is not kept. -/
theorem kept_cons_of_not_valid {valid : Text → Bool} {b : Block} (h : valid b.device = false)
    (blocks : List Block) : kept valid (b :: blocks) = kept valid blocks := by
  simp [kept, h]

end StorageInventory.Pass
