import DocAudit.Proofs.Scan.Specification

/-!
# Where the texts of findings come from

A finding names a method by characters of the scanned text. Its message is one of a few standing
ones, or quotes a type that is written in the text. So whatever character a finding carries beyond
the standing messages was already in the text, under every pattern for parameter tags.
-/

namespace DocAudit

/-! ## Matches -/

namespace Pattern

variable {input taken : Text} {c : Char}

theorem mem_of_mem_slice {start stop : Nat} (mem : c ∈ slice input start stop) : c ∈ input :=
  List.mem_of_mem_drop (List.mem_of_mem_take mem)

/-- What a group took is a part of the text. -/
theorem mem_of_mem_groups (found : Match) (group : some taken ∈ found.groups input)
    (mem : c ∈ taken) : c ∈ input := by
  obtain ⟨span, -, taking⟩ := List.mem_map.mp group
  obtain ⟨ends, -, rfl⟩ := Option.map_eq_some_iff.mp taking
  exact mem_of_mem_slice mem

end Pattern

/-! ## Signatures and doc blocks -/

namespace Signature

variable {pattern : Pattern} {kind : SignatureKind} {line : Text} {signature : Signature} {c : Char}

theorem mem_line_of_find? (found : find? pattern kind line = some signature)
    (mem : c ∈ signature.name) : c ∈ line := by
  rw [find?] at found
  split at found
  · cases found
  · split at found
    · next name parameters groups =>
      obtain ⟨result, -, same⟩ := Option.map_eq_some_iff.mp groups
      cases found
      refine Pattern.mem_of_mem_groups result ?_ ((Text.isInfix_trim name).subset mem)
      rw [same]
      exact List.mem_cons_self
    · cases found

theorem mem_line_of_declared? (found : declared? line = some signature)
    (mem : c ∈ signature.name) : c ∈ line :=
  mem_line_of_find? found mem

theorem mem_line_of_documented? (found : documented? line = some signature)
    (mem : c ∈ signature.name) : c ∈ line := by
  rw [documented?] at found
  cases member : find? memberPattern .member line with
  | some first =>
      rw [member] at found
      cases found
      exact mem_line_of_find? member mem
  | none =>
      rw [member] at found
      exact mem_line_of_find? found mem

end Signature

namespace DocBlock

variable {pattern : Pattern} {segment block parameters : Text} {tag : ParamTag} {c : Char}

theorem mem_segment_of_classify (tagged : classify pattern segment = .tag tag)
    (mem : c ∈ tag.typeName) : c ∈ segment := by
  rw [classify] at tagged
  split at tagged
  · next found searched =>
    rw [tagOf.eq_def] at tagged
    split at tagged
    · next typeName second others groups =>
      cases tagged
      refine Pattern.mem_of_mem_groups found ?_ mem
      rw [groups]
      exact List.mem_cons_self
    · cases tagged
  · split at tagged <;> cases tagged

/-- The type of a tag is written in the block. -/
theorem mem_block_of_mem_tags (listed : tag ∈ (extract pattern block parameters).tags)
    (mem : c ∈ tag.typeName) : c ∈ block := by
  obtain ⟨part, classified, tagged⟩ := List.mem_filterMap.mp listed
  obtain ⟨segment, cut, rfl⟩ := List.mem_map.mp classified
  rw [Segment.tag?.eq_def] at tagged
  split at tagged
  · next found same =>
    obtain rfl := Option.some.inj tagged
    exact Text.mem_of_mem_splitOn cut (mem_segment_of_classify same mem)
  · cases tagged

end DocBlock

/-! ## Findings -/

namespace Scan

variable {settings : Settings} {text block line : Text} {lines : List Text} {index : Nat}
variable {finding : Finding} {c : Char}

/-- The messages that quote nothing. -/
inductive IsStanding : Text → Prop where
  | undocumented : IsStanding undocumentedMessage
  | shortDescription : IsStanding Check.shortDescriptionMessage
  | count (documented actual : Nat) : IsStanding (Check.countMessage documented actual)

/-- A finding that stands in a text: its method does, and so does a type that its message
quotes. -/
structure StandsIn (text : Text) (finding : Finding) : Prop where
  method : finding.method ⊆ text
  message : IsStanding finding.message ∨
    ∃ typeName ⊆ text, finding.message = Check.invalidTypeMessage typeName

theorem StandsIn.mono (stands : StandsIn line finding) (part : line ⊆ text) :
    StandsIn text finding := by
  refine ⟨List.Subset.trans stands.method part, stands.message.imp_right ?_⟩
  rintro ⟨typeName, inside, message⟩
  exact ⟨typeName, List.Subset.trans inside part, message⟩

theorem standsIn_of_mem_undocumented (mem : finding ∈ undocumented index line) :
    StandsIn line finding := by
  rw [undocumented] at mem
  split at mem
  · next signature declared =>
    obtain rfl := List.mem_singleton.mp mem
    exact ⟨fun c => Signature.mem_line_of_declared? declared, .inl .undocumented⟩
  · exact absurd mem List.not_mem_nil

/-- A check quotes the types of tags and nothing else. -/
theorem method_and_message_of_mem_method {doc : MethodDoc} {place : Int} {name : Text}
    (mem : finding ∈ Check.method settings doc place name) :
    finding.method = name ∧ (IsStanding finding.message ∨
      ∃ tag ∈ doc.tags, finding.message = Check.invalidTypeMessage tag.typeName) := by
  simp only [Check.method, Check.shortDescription, Check.argumentCount, Check.invalidTypes,
    List.mem_append, List.mem_ite_nil_right, List.mem_singleton, List.mem_map,
    List.mem_filter] at mem
  rcases mem with (⟨-, -, rfl⟩ | ⟨-, rfl⟩) | ⟨-, tag, ⟨listed, -⟩, rfl⟩
  · exact ⟨rfl, .inl .shortDescription⟩
  · exact ⟨rfl, .inl (.count _ _)⟩
  · exact ⟨rfl, .inr ⟨tag, listed, rfl⟩⟩

theorem standsIn_of_mem_documented (mem : finding ∈ documented settings block index line) :
    StandsIn (block ++ line) finding := by
  rw [documented] at mem
  split at mem
  · next signature found =>
    obtain ⟨name, message⟩ := method_and_message_of_mem_method mem
    refine ⟨fun c inside => ?_, message.imp_right ?_⟩
    · rw [name] at inside
      exact List.mem_append_right _ (Signature.mem_line_of_documented? found inside)
    · rintro ⟨tag, listed, quoted⟩
      refine ⟨tag.typeName, fun c inside => ?_, quoted⟩
      exact List.mem_append_left _ (DocBlock.mem_block_of_mem_tags listed inside)
  · exact absurd mem List.not_mem_nil

theorem line_subset_text (mem : line ∈ sourceLines text) : line ⊆ text := by
  obtain ⟨piece, cut, rfl⟩ := List.mem_map.mp mem
  intro c inside
  exact Text.mem_of_mem_splitOn cut ((Text.isPrefix_dropEndWhile _ piece).subset inside)

theorem blockBefore_subset_text (index : Nat) :
    blockBefore (sourceLines text) index ⊆ text := by
  intro c inside
  obtain ⟨line, part, inside⟩ := List.mem_flatten.mp inside
  exact line_subset_text (List.mem_of_mem_take (List.mem_of_mem_drop part)) inside

/-- Every finding stands in the text that was scanned. -/
theorem standsIn_of_mem_findings (mem : finding ∈ findings settings text) :
    StandsIn text finding := by
  rw [findings_eq_flatMap, List.mem_flatMap] at mem
  obtain ⟨index, inside, mem⟩ := mem
  have found := List.getElem?_eq_getElem (List.mem_range.mp inside)
  have part := line_subset_text (List.mem_of_getElem? found)
  by_cases taken : Consumed (sourceLines text) index
  · rw [lineFindings, atLine_of_consumed _ _ found taken] at mem
    exact (standsIn_of_mem_documented mem).mono
      (List.append_subset.mpr ⟨blockBefore_subset_text index, part⟩)
  · rw [lineFindings, atLine_of_not_consumed _ _ found taken] at mem
    exact (standsIn_of_mem_undocumented mem).mono part

end Scan

end DocAudit
