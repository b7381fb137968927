import AnalystQuery.Proofs.Query.Accounting
import AnalystQuery.Proofs.Query.Comparisons

/-! Closed vocabularies in compiled queries. Filters keep to the values of their own field. The
values of a category are checked by the first field that may hold it, and the other fields take
them unchecked. -/

namespace AnalystQuery.Query

variable {schema : Schema} {sizes : Sizes} {index : String} {intent : Intent}

/-- Wherever a keyword field with a closed vocabulary is compared, only its own values are
offered. -/
def KeepsVocabularies (schema : Schema) (query : Json) : Prop :=
  ∀ field ∈ schema.fields, field.type = .keyword → ∀ known ∈ field.values,
    ∀ clause ∈ comparisonClauses, ∀ body, Stands .clause query .clause clause body →
      ∀ operand, body.get? field.name = some operand →
        ∀ item ∈ offered operand, ∃ value ∈ known, item = .string value

/-- What the first field keeps of a category is known to the other fields that may hold it. -/
def SharedVocabularies (schema : Schema) (intent : Intent) : Prop :=
  ∀ entry ∈ intent.entities.toList, ∀ primary ∈ (presentFields schema entry.1).head?,
    ∀ field ∈ (presentFields schema entry.1).tail, field.type = .keyword →
      ∀ known ∈ field.values, ∀ value ∈ acceptedValues primary entry.2, value ∈ known

instance (schema : Schema) (intent : Intent) : Decidable (SharedVocabularies schema intent) :=
  inferInstanceAs (Decidable (∀ entry ∈ intent.entities.toList, _))

theorem offered_known {operand : Json} {values known : List String}
    (offers : offered operand = values.map Json.string) (inside : ∀ value ∈ values, value ∈ known) :
    ∀ item ∈ offered operand, ∃ value ∈ known, item = .string value := by
  rw [offers]
  intro item member
  obtain ⟨value, kept, rfl⟩ := List.mem_map.mp member
  exact ⟨value, inside value kept, rfl⟩

theorem Comparison.offers {leaf : Leaf} (comparison : Comparison schema intent leaf)
    (shared : SharedVocabularies schema intent) :
    ∃ field ∈ schema.fields, ∃ operand, leaf.contents = single field.name operand ∧
      (field.type = .keyword → ∀ known ∈ field.values,
        ∀ item ∈ offered operand, ∃ value ∈ known, item = .string value) := by
  cases comparison with
  | @category category values primary field others named present kept candidate =>
    obtain ⟨operand, contents, offers⟩ := contents_oneOfLeaf field (acceptedValues primary values)
    have member : field ∈ schema.fields := mem_of_mem_presentFields (present ▸ candidate)
    refine ⟨field, member, operand, contents, fun keyword known closed => ?_⟩
    apply offered_known offers
    -- The first field has checked the values itself; the others rely on it.
    rcases List.mem_cons.mp candidate with rfl | other
    · intro value accepted
      exact known_of_kept closed accepted
    · exact shared (category, values) named primary (by simp [present]) field
        (by simpa [present] using other) keyword known closed
  | @filter filter field role listed found equality given kept whole =>
    obtain ⟨operand, contents, offers⟩ := contents_equalityLeaf filter.value
      (acceptedValues field (valueTexts filter.value)) whole
    refine ⟨field, Schema.mem_of_field? found, operand, contents, fun keyword known closed => ?_⟩
    apply offered_known (offers (by rw [keyword]; rfl))
    intro value accepted
    exact known_of_kept closed accepted

theorem keepsVocabularies_of_shared (distinct : (schema.fields.map (·.name)).Nodup)
    (shared : SharedVocabularies schema intent) :
    KeepsVocabularies schema (compile sizes index schema intent).query := by
  intro field listed keyword known closed clause compares body stands operand found
  obtain ⟨leaf, comparison, -, rfl⟩ :=
    (comparison_stands_iff sizes index schema intent compares).mp stands
  obtain ⟨own, member, ownOperand, contents, offers⟩ := comparison.offers shared
  rw [contents, get?_single] at found
  obtain ⟨named, ⟨⟩⟩ := Option.ite_none_right_eq_some.mp found
  obtain rfl := List.inj_on_of_nodup_map distinct member listed named
  exact offers keyword known closed

theorem sharedVocabularies_of_keeps
    (keeps : KeepsVocabularies schema (compile sizes index schema intent).query) :
    SharedVocabularies schema intent := by
  rintro ⟨category, values⟩ named primary first field other keyword known closed value kept
  have candidate : field ∈ presentFields schema category := List.mem_of_mem_tail other
  obtain ⟨clause, compares, operand, stands, offers⟩ :=
    category_stands sizes index named first (List.ne_nil_of_mem kept) candidate
  have found : (single field.name operand).get? field.name = some operand := by
    rw [get?_single, if_pos rfl]
  have offer : Json.string value ∈ offered operand := by
    rw [offers]
    exact List.mem_map_of_mem kept
  obtain ⟨spelling, inside, ⟨⟩⟩ := keeps field (mem_of_mem_presentFields candidate) keyword known
    closed clause compares _ stands operand found _ offer
  exact inside

/-- Among fields with distinct names, compiled queries keep to closed vocabularies if and only if
the first field that may hold a category keeps only values that the others know. -/
theorem closed_vocabularies_kept_iff (sizes : Sizes) (index : String) (schema : Schema)
    (intent : Intent) (distinct : (schema.fields.map (·.name)).Nodup) :
    KeepsVocabularies schema (compile sizes index schema intent).query ↔
      SharedVocabularies schema intent :=
  ⟨sharedVocabularies_of_keeps, keepsVocabularies_of_shared distinct⟩

private def platforms : Schema :=
  ⟨[⟨"channel", .keyword, some ["email", "web", "chat"]⟩,
    ⟨"platform", .keyword, some ["web", "chat"]⟩]⟩

private def onlineOnly : Intent :=
  { Intent.plain .search .zero with
    entities := Entities.empty.set .channels ["Chat", "WEB", "fax"]
    filters := [⟨"channel", .ne, .string "EMAIL"⟩, ⟨"platform", .oneOf, .array [.string "Web"]⟩] }

theorem online_vocabularies_kept :
    (platforms.fields.map (·.name)).Nodup ∧
      KeepsVocabularies platforms (compile ⟨20, 100⟩ "communications" platforms onlineOnly).query := by
  have distinct : (platforms.fields.map (·.name)).Nodup := by decide
  have shared : SharedVocabularies platforms onlineOnly := by decide +kernel
  have kept := closed_vocabularies_kept_iff ⟨20, 100⟩ "communications" platforms onlineOnly distinct
  exact ⟨distinct, kept.mpr shared⟩

/-- A channel that any mail may have is looked for among platforms that do not know it. -/
theorem unknown_platform_compared :
    ¬ ∀ (sizes : Sizes) (index : String) (schema : Schema) (intent : Intent),
      (schema.fields.map (·.name)).Nodup →
        KeepsVocabularies schema (compile sizes index schema intent).query := by
  intro always
  let schema : Schema := ⟨[⟨"channel", .keyword, none⟩, ⟨"platform", .keyword, some ["web"]⟩]⟩
  let mail : Intent :=
    { Intent.plain .search .zero with entities := Entities.empty.set .channels ["email"] }
  have shared : SharedVocabularies schema mail :=
    sharedVocabularies_of_keeps (always ⟨20, 100⟩ "communications" schema mail (by decide))
  exact absurd shared (by decide)

end AnalystQuery.Query
