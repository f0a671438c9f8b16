import Mathlib.Tactic
import StorageInventory.Proofs.Collection.Description
import StorageInventory.Proofs.Number.Exactness
import StorageInventory.Proofs.Pass.DiskEdits
import StorageInventory.Proofs.Pass.MountPaths
import StorageInventory.Proofs.Pass.PartitionFaults
import StorageInventory.Proofs.Text.Pieces

/-!
# Reading rendered lines

Every line of a rendered host is read for what it renders.  The lines of the geometry listings are
trimmed first, which takes the indent off and leaves their labels (`trim_attributeLine`); a label is
never taken for a header, nor for another label, since they begin with different letters.

* `counterEdit_counterLine`, `attributeEdits_eq` — the rows and blocks of disks,
* `describe_nameLine` — the lines of partitions,
* `readMountRow_eq` — the rows of the mount table,
* `minorOf_minorAnswer` — the answers for minor numbers.
-/

namespace StorageInventory

open Name Number Pass Text

/-! ## Words -/

/-- Words between spaces are found again. -/
theorem tokens_spaced {words : List Text} (h : ∀ w ∈ words, IsWord w) :
    tokens (spaced words) = words := by
  induction words with
  | nil => rfl
  | cons w words ih =>
    cases words with
    | nil => exact tokens_word (h w (by simp))
    | cons v words =>
      have hspaced : spaced (w :: v :: words) = w ++ ' ' :: spaced (v :: words) := rfl
      rw [hspaced, tokens_word_blank (h w (by simp)) isBlank_space,
        ih fun u hu => h u (List.mem_cons_of_mem _ hu)]

/-- Behind a word there is nothing to trim. -/
theorem trimEnd_append_word (text : Text) {w : Text} (h : IsWord w) :
    trimEnd (text ++ w) = text ++ w := by
  rw [trimEnd_append, trimEnd_word h, if_neg h.ne_nil]

/-- The indentation is made of blanks. -/
theorem isMargin_indent : IsMargin indent := by decide

/-- The last of some words is the last one of the line. -/
theorem lastToken_append_word (text : Text) {c : Char} (hc : isBlank c = true) {w : Text}
    (h : IsWord w) : lastToken (text ++ c :: w) = w := by
  rw [lastToken, tokens_append_blank text hc, tokens_word h]
  simp

/-! ## Lines of the geometry listings -/

/-- A header line has no blanks around it. -/
theorem trim_headerLine {disk : Text} (h : IsWord disk) :
    trim (headerLine disk) = headerLine disk := by
  have hlabel : IsWord "Geom".toList := by decide
  have hline : headerLine disk = "Geom".toList ++ (" name: ".toList ++ disk) := rfl
  rw [hline, trim_label_append hlabel, trimEnd_append_word _ h]

/-- A header line is a header. -/
theorem isBlockHeader_headerLine {disk : Text} (h : IsWord disk) :
    isBlockHeader (trim (headerLine disk)) = true := by
  rw [trim_headerLine h]
  exact isPrefixOf_append blockHeader (' ' :: disk)

/-- A header line names its disk. -/
theorem lastToken_headerLine {disk : Text} (h : IsWord disk) :
    lastToken (headerLine disk) = disk :=
  lastToken_append_word "Geom name:".toList isBlank_space h

/-- Trimming takes the indent off an attribute and keeps its label. -/
theorem trim_attributeLine {label : Text} (h : IsWord label) (value : Text) :
    trim (attributeLine label value) = label ++ trimEnd (' ' :: value) := by
  rw [attributeLine, trim_margin_append isMargin_indent, trim_label_append h]

/-- An attribute line has its label and the words of its value. -/
theorem tokens_attributeLine {label : Text} (h : IsWord label) (value : Text) :
    tokens (trim (attributeLine label value)) = label :: tokens value := by
  rw [tokens_trim, attributeLine, tokens_margin_append isMargin_indent,
    tokens_word_blank h isBlank_space]

/-- A size value begins with the size. -/
theorem tokens_sizeValue (size : Nat) (note : Text) :
    ∃ more, tokens (sizeValue size note) = ofNat size :: more :=
  ⟨_, tokens_word_blank (isWord_ofNat size) isBlank_space _⟩

/-- All labels are words. -/
theorem isWord_labels : IsWord sizeLabel ∧ IsWord modelLabel ∧ IsWord serialLabel ∧
    IsWord uuidLabel ∧ IsWord typeLabel := by decide

/-- An attribute line begins with its label. -/
theorem isPrefixOf_attributeLine_self {label : Text} (h : IsWord label) (value : Text) :
    label.isPrefixOf (trim (attributeLine label value)) = true := by
  rw [trim_attributeLine h]
  exact isPrefixOf_append label _

/-- An attribute is not taken for a line that begins with another letter. -/
theorem isPrefixOf_attributeLine {label other : Text} (h : IsWord label)
    (hstart : startApart label other = true) (value : Text) :
    other.isPrefixOf (trim (attributeLine label value)) = false :=
  isPrefixOf_of_startApart hstart (isPrefixOf_attributeLine_self h value)

/-- What follows the label of an attribute is its value, trimmed. -/
theorem trim_drop_attributeLine {label : Text} (h : IsWord label) (value : Text) :
    trim ((trim (attributeLine label value)).drop label.length) = trim value := by
  have hblank : IsMargin [' '] := by decide
  rw [trim_attributeLine h, List.drop_left, trim_trimEnd]
  exact trim_margin_append hblank value

/-- A piece without blanks that the value does not hold is not behind the label either. -/
theorem includes_drop_attributeLine {label piece value : Text} (h : IsWord label)
    (hpiece : IsWord piece) (hvalue : includes piece value = false) :
    includes piece ((trim (attributeLine label value)).drop label.length) = false := by
  obtain ⟨m, -, heq⟩ := exists_eq_trimEnd_append (' ' :: value)
  have hblank : ' ' ∉ piece := fun hmem => absurd (hpiece.2 ' ' hmem) (by decide)
  have hspace : includes piece (' ' :: value) = false := by
    have hsplit := includes_append_cons hblank hpiece.ne_nil [] value
    rw [List.nil_append, hvalue, Bool.or_false] at hsplit
    rw [hsplit, ← Bool.not_eq_true, includes_iff, List.infix_nil]
    exact hpiece.ne_nil
  rw [trim_attributeLine h, List.drop_left, ← Bool.not_eq_true]
  intro hin
  rw [heq, includes_append_right hin] at hspace
  exact absurd hspace (by simp)

/-- A size that is readable is read as it is. -/
theorem readSize_ofNat {n : Nat} (h : IsReadable n) : readSize (ofNat n) = some (n : Int) := by
  rw [readSize, readInteger_ofNat h]
  rfl

/-! ## Disks -/

namespace DiskDescription

variable {d : DiskDescription}

/-- A counter line has the columns of its disk. -/
theorem tokens_counterLine (h : IsWord d.name) :
    tokens d.counterLine =
      [d.name, ofNat d.reads, ofNat d.writes, ofNat d.kilobytesRead, ofNat d.kilobytesWritten,
        ['0'], ['0'], ofNat d.busySeconds] := by
  have hzero : IsWord ['0'] := by decide
  apply tokens_spaced
  intro w hw
  simp only [List.mem_cons, List.not_mem_nil, or_false] at hw
  rcases hw with rfl | rfl | rfl | rfl | rfl | rfl | rfl | rfl
  · exact h
  all_goals first | exact isWord_ofNat _ | exact hzero

/-- The edit that puts the counters of a disk in. -/
def counters (timestamp : Int) (d : DiskDescription) : DiskEdit where
  device := d.name
  change disk :=
    { d.record timestamp with
      model := disk.model
      serial := disk.serial
      sizeBytes := disk.sizeBytes
      partitions := disk.partitions }

/-- The columns of a counter line are read as they are, kilobytes as bytes and seconds as
milliseconds. -/
theorem readColumns_counterLine (h : d.WellFormed) :
    readColumns (tokens d.counterLine) =
      [some (d.reads : Int), some (d.writes : Int), some ((d.kilobytesRead * 1024 : Nat) : Int),
        some ((d.kilobytesWritten * 1024 : Nat) : Int),
        some ((d.busySeconds * 1000 : Nat) : Int)] := by
  have hbusy := h.busySeconds
  have hreads := readColumn_ofNat h.reads 1 (by simpa using Fits.of_lt h.reads)
  have hwrites := readColumn_ofNat h.writes 1 (by simpa using Fits.of_lt h.writes)
  have hread := readColumn_ofNat h.kilobytesRead 1024
    (Fits.of_lt_mul h.kilobytesRead (show 10 ≤ 971 by decide))
  have hwritten := readColumn_ofNat h.kilobytesWritten 1024
    (Fits.of_lt_mul h.kilobytesWritten (show 10 ≤ 971 by decide))
  have htime : readColumn (some (ofNat d.busySeconds)) 1000 = _ :=
    readColumn_ofNat (by omega) 1000 (Fits.of_lt (by omega))
  rw [Nat.mul_one] at hreads hwrites
  rw [tokens_counterLine h.word]
  change [readColumn (some (ofNat d.reads)) 1, readColumn (some (ofNat d.writes)) 1,
    readColumn (some (ofNat d.kilobytesRead)) 1024,
    readColumn (some (ofNat d.kilobytesWritten)) 1024,
    readColumn (some (ofNat d.busySeconds)) 1000] = _
  rw [hreads, hwrites, hread, hwritten, htime]

/-- The row of a disk is read for its counters. -/
theorem counterEdit_counterLine (h : d.WellFormed) (timestamp : Int) {valid : Text → Bool}
    (hvalid : valid d.name = true) :
    counterEdit timestamp valid d.counterLine = some (d.counters timestamp) := by
  have haccept := acceptCounterRow_eq_some.2 ⟨tokens_counterLine h.word, by simp, hvalid⟩
  have hcolumns := readColumns_counterLine h
  rw [tokens_counterLine h.word] at hcolumns
  have hchange : setCounters timestamp d.name (d.name :: [ofNat d.reads, ofNat d.writes,
      ofNat d.kilobytesRead, ofNat d.kilobytesWritten, ['0'], ['0'], ofNat d.busySeconds]) =
      (d.counters timestamp).change := by
    funext disk
    rw [setCounters, hcolumns]
    rfl
  rw [counterEdit, haccept, Option.map_some]
  dsimp only
  rw [hchange]
  rfl

/-- What the block of a disk says about it. -/
def geometry (d : DiskDescription) : List DiskEdit :=
  [⟨d.name, fun disk => { disk with sizeBytes := d.size }⟩,
    ⟨d.name, fun disk => { disk with model := d.model }⟩,
    ⟨d.name, fun disk => { disk with serial := d.serial }⟩]

/-- The lines in the block of a disk are read for what they say. -/
theorem attributeEdits_eq (h : d.WellFormed) :
    (d.attributeLines.map trim).filterMap (attributeEdit d.name) = d.geometry := by
  obtain ⟨hsize, hmodel, hserial, -⟩ := isWord_labels
  -- each line carries its own label, and begins with no other
  have hfirst : attributeEdit d.name (trim (attributeLine sizeLabel (sizeValue d.size d.note))) =
      some ⟨d.name, fun disk => { disk with sizeBytes := d.size }⟩ := by
    obtain ⟨more, htokens⟩ := tokens_sizeValue d.size d.note
    rw [attributeEdit, if_pos (isPrefixOf_attributeLine_self hsize _), tokens_attributeLine hsize,
      htokens]
    simp [readSize_ofNat h.size]
  have hsecond : attributeEdit d.name (trim (attributeLine modelLabel d.model)) =
      some ⟨d.name, fun disk => { disk with model := d.model }⟩ := by
    rw [attributeEdit,
      if_neg (ne_true_of_eq_false (isPrefixOf_attributeLine hmodel rfl _)),
      if_pos (isPrefixOf_attributeLine_self hmodel _), trim_drop_attributeLine hmodel, h.model]
  have hthird : attributeEdit d.name (trim (attributeLine serialLabel d.serial)) =
      some ⟨d.name, fun disk => { disk with serial := d.serial }⟩ := by
    rw [attributeEdit,
      if_neg (ne_true_of_eq_false (isPrefixOf_attributeLine hserial rfl _)),
      if_neg (ne_true_of_eq_false (isPrefixOf_attributeLine hserial rfl _)),
      if_pos (isPrefixOf_attributeLine_self hserial _),
      replaceAll_eq_self (includes_drop_attributeLine hserial (by decide) h.serial.2),
      trim_drop_attributeLine hserial, h.serial.1]
  simp only [attributeLines, List.map_cons, List.map_nil, List.filterMap_cons, List.filterMap_nil,
    hfirst, hsecond, hthird, geometry]

/-- No line that describes a disk opens a block. -/
theorem isBlockHeader_attributeLines :
    ∀ line ∈ d.attributeLines, isBlockHeader (trim line) = false := by
  obtain ⟨hsize, hmodel, hserial, -⟩ := isWord_labels
  intro line hline
  simp only [attributeLines, List.mem_cons, List.not_mem_nil, or_false] at hline
  rcases hline with rfl | rfl | rfl
  · exact isPrefixOf_attributeLine hsize rfl _
  · exact isPrefixOf_attributeLine hmodel rfl _
  · exact isPrefixOf_attributeLine hserial rfl _

end DiskDescription

/-! ## Partitions -/

/-- What a text does not include it does not include when it is trimmed. -/
theorem includes_trim {piece text : Text} (h : includes piece text = false) :
    includes piece (trim text) = false := by
  obtain ⟨before, after, -, -, heq⟩ := exists_eq_append_trim text
  rw [← Bool.not_eq_true] at h ⊢
  intro hin
  rw [heq] at h
  exact h (includes_append_right (includes_append_left before hin) after)

/-- A character that is not in the name mark keeps apart what stands around it. -/
theorem includes_nameMark_append {c : Char} (hc : c ∉ nameMark) (a b : Text) :
    includes nameMark (a ++ c :: b) = (includes nameMark a || includes nameMark b) :=
  includes_append_cons hc (by decide) a b

/-- An attribute has the name mark only if its value does. -/
theorem includes_attributeLine {label value : Text}
    (hlabel : includes nameMark (indent ++ label) = false)
    (hvalue : includes nameMark value = false) :
    includes nameMark (trim (attributeLine label value)) = false := by
  refine includes_trim ?_
  rw [attributeLine, ← List.append_assoc, includes_nameMark_append (by decide), hlabel,
    hvalue]
  rfl

/-- A size value has no name mark, if its note has none. -/
theorem includes_sizeValue (size : Nat) {note : Text} (h : includes nameMark note = false) :
    includes nameMark (sizeValue size note) = false := by
  have hdigits : includes nameMark (ofNat size) = false :=
    includes_eq_false_of_not_mem (show 'N' ∈ nameMark by decide)
      fun hmem => absurd (isDigits_ofNat size 'N' hmem) (by decide)
  have hnote : includes nameMark ('(' :: (note ++ [')'])) = false := by
    have hopen := includes_nameMark_append (show '(' ∉ nameMark by decide) [] (note ++ [')'])
    rw [List.nil_append] at hopen
    rw [hopen, includes_nameMark_append (by decide), h]
    rfl
  rw [sizeValue, includes_nameMark_append (by decide), hdigits, hnote]
  rfl

/-- An attribute is read for the first word of its value, under its own label only. -/
theorem labelled_self {label value word : Text} {more : List Text} (h : IsWord label)
    (hvalue : tokens value = word :: more) :
    labelled label (trim (attributeLine label value)) = some word := by
  rw [labelled_eq_getElem (isPrefixOf_attributeLine_self h value), tokens_attributeLine h, hvalue]
  rfl

/-- An attribute line has no value for a label that starts differently. -/
theorem labelled_other {label other value : Text} (h : IsWord label)
    (hstart : startApart label other = true) :
    labelled other (trim (attributeLine label value)) = none :=
  labelled_eq_none hstart (isPrefixOf_attributeLine_self h value)

namespace PartitionDescription

variable {disk : Text} {p : PartitionDescription}

/-- The name of a partition is a word, as that of its disk is. -/
theorem WellFormed.isWord (h : p.WellFormed disk) (hdisk : IsWord disk) : IsWord p.name := by
  obtain ⟨c, rest, hname, -, hchars⟩ := h.suffix
  rw [hname]
  refine ⟨by simp, ?_⟩
  intro x hx
  rcases List.mem_append.1 hx with hx | hx
  · exact hdisk.2 x hx
  · exact (hchars x hx).1

/-- A name line has no blanks around it. -/
theorem trim_nameLine (h : IsWord p.name) : trim p.nameLine = p.nameLine := by
  have hlabel : IsWord "1.".toList := by decide
  have hline : p.nameLine = "1.".toList ++ (" Name: ".toList ++ p.name) := rfl
  rw [hline, trim_label_append hlabel, trimEnd_append_word _ h]

/-- A name line has the name mark. -/
theorem includes_nameLine (h : IsWord p.name) : includes nameMark (trim p.nameLine) = true := by
  have hline : p.nameLine = "1. ".toList ++ (nameMark ++ ' ' :: p.name) := rfl
  have hmark : includes nameMark nameMark = true := by decide
  rw [trim_nameLine h, hline]
  exact includes_append_left _ (includes_append_right hmark _)

/-- The rule accepts the name, if the name of the disk has no slash. -/
theorem geometryRule_nameLine (h : p.WellFormed disk) (hdisk : IsWord disk) (hslash : '/' ∉ disk) :
    geometryRule (trim p.nameLine) disk = some p.name := by
  have hword := h.isWord hdisk
  have hlast : lastToken (trim p.nameLine) = p.name := by
    rw [lastToken_trim]
    exact lastToken_append_word "1. Name:".toList isBlank_space hword
  obtain ⟨c, rest, hname, hdigit, hchars⟩ := h.suffix
  have hnoslash : '/' ∉ disk ++ c :: rest := by
    intro hmem
    rcases List.mem_append.1 hmem with hmem | hmem
    · exact hslash hmem
    · exact (hchars '/' hmem).2 rfl
  rw [geometryRule, includes_nameLine hword, hlast]
  dsimp only
  rw [hname, isPrefixOf_append, List.drop_left]
  simp [hnoslash, hdigit]

/-- No line that describes a partition opens a block or starts another one. -/
theorem isBlockHeader_nameLine (h : IsWord p.name) : isBlockHeader (trim p.nameLine) = false := by
  have hlabel : "1. Name: ".toList.isPrefixOf p.nameLine = true := isPrefixOf_append _ p.name
  rw [trim_nameLine h]
  exact isPrefixOf_of_startApart rfl hlabel

/-- Attribute lines open neither a block nor a partition. -/
theorem not_opening_attributeLines (h : p.WellFormed disk) :
    ∀ line ∈ p.attributeLines, isBlockHeader (trim line) = false ∧
      includes nameMark (trim line) = false := by
  obtain ⟨hsize, -, -, huuid, htype⟩ := isWord_labels
  intro line hline
  simp only [attributeLines, List.mem_cons, List.not_mem_nil, or_false] at hline
  rcases hline with rfl | rfl | rfl
  · exact ⟨isPrefixOf_attributeLine hsize rfl _,
      includes_attributeLine (by decide) (includes_sizeValue p.size h.note)⟩
  · exact ⟨isPrefixOf_attributeLine huuid rfl _,
      includes_attributeLine (by decide) h.uuid.2⟩
  · exact ⟨isPrefixOf_attributeLine htype rfl _,
      includes_attributeLine (by decide) h.kind.2⟩

/-- The lines behind the first one are read for what they say. -/
theorem fill_attributeLines (h : p.WellFormed disk) (q : Partition) :
    fill (p.attributeLines.map trim) q =
      { q with sizeBytes := p.size, uuid := p.uuid, kind := p.kind } := by
  obtain ⟨hsize, -, -, huuid, htype⟩ := isWord_labels
  obtain ⟨more, htokens⟩ := tokens_sizeValue p.size p.note
  have hlines : p.attributeLines.map trim =
      [trim (attributeLine sizeLabel (sizeValue p.size p.note)),
        trim (attributeLine uuidLabel p.uuid), trim (attributeLine typeLabel p.kind)] := rfl
  have hsizeValue : lastValue sizeLabel (p.attributeLines.map trim) = some (ofNat p.size) := by
    rw [hlines, lastValue_cons, lastValue_cons, lastValue_singleton, labelled_self hsize htokens,
      labelled_other huuid rfl, labelled_other htype rfl]
    rfl
  have huuidValue : lastValue uuidLabel (p.attributeLines.map trim) = some p.uuid := by
    rw [hlines, lastValue_cons, lastValue_cons, lastValue_singleton,
      labelled_self huuid (tokens_word h.uuid.1), labelled_other hsize rfl,
      labelled_other htype rfl]
    rfl
  have htypeValue : lastValue typeLabel (p.attributeLines.map trim) = some p.kind := by
    rw [hlines, lastValue_cons, lastValue_cons, lastValue_singleton,
      labelled_self htype (tokens_word h.kind.1), labelled_other hsize rfl,
      labelled_other huuid rfl]
    rfl
  rw [fill, hsizeValue, huuidValue, htypeValue, Option.map_some, readSize_ofNat h.size]
  rfl

/-- The lines of a partition describe it, but for its mount point and its minor number. -/
theorem describe_nameLine (h : p.WellFormed disk) (hdisk : IsWord disk) (hslash : '/' ∉ disk)
    (mounts : Table Text) :
    describe geometryRule mounts disk (trim p.nameLine, p.attributeLines.map trim) =
      some { p.record with mountPoint := (mounts.get? p.name).getD [], minorNumber := 0 } := by
  rw [describe, geometryRule_nameLine h hdisk hslash, Option.map_some, fill_attributeLines h]
  rfl

end PartitionDescription

/-! ## Mount points -/

/-- A row of the mount table is read for the mount point. -/
theorem readMountRow_eq {name place options : Text} (hname : IsWord name) (hplace : IsWord place)
    (hoptions : '\n' ∉ options) :
    readMountRow (devicePrefix ++ (name ++ (mountedOn ++
      (place ++ ' ' :: '(' :: (options ++ [')']))))) = some (name, place) :=
  readMountRow_eq_some_iff.2 ⟨hname, hplace, ' ' :: '(' :: (options ++ [')']),
    trim_mountRow name place options, .inr ⟨_, rfl, by simp [hoptions]⟩⟩

/-! ## Minor numbers -/

/-- The answer for a partition of the host is its minor number. -/
theorem minorOf_minorAnswer {h : HostDescription} (hwf : h.WellFormed) {p : PartitionDescription}
    (hp : p ∈ h.partitions) : Session.minorOf p.name (.ok (h.minorAnswer p.name)) = p.minor := by
  have hfind : h.partitions.find? (·.name = p.name) = some p := by
    cases hq : h.partitions.find? (·.name = p.name) with
    | none => exact absurd (List.find?_eq_none.1 hq p hp) (by simp)
    | some q =>
      have hname : q.name = p.name := by simpa using List.find?_some hq
      rw [List.inj_on_of_nodup_map hwf.partitionNames (List.mem_of_find?_eq_some hq) hp hname]
  obtain ⟨d, hd, hpd⟩ := List.mem_flatMap.1 hp
  have hminor := (((hwf.disk d hd).partitions p hpd)).minor
  have hword := isWord_ofNat p.minor
  rw [Session.minorOf, HostDescription.minorAnswer, hfind, Option.map_some, readMinor]
  simp only [firstLine, trim_word hword, if_neg hword.ne_nil, tokens_word hword, List.headD_cons,
    readInteger_ofNat hminor, Sum.getLeft?_inl, Option.getD_some]

end StorageInventory
