import AnalystQuery.Proofs.Json.Entries
import AnalystQuery.Proofs.Query.Envelope
import Mathlib.Data.List.Infix

/-! The keys of accepted aggregations. A key that is taken gets its position appended, and the
result is not compared with the keys before it: two aggregations share a key exactly when a
numbered key was asked for under its own name before. -/

namespace AnalystQuery.Query

def numbered (key : String) (position : Nat) : String := key ++ "_" ++ toString position

/-- The key that an aggregation asks for, if the schema supports the aggregation. -/
def requestedKey? (sizes : Sizes) (schema : Schema) (aggregation : Aggregation) :
    Option String :=
  let field := aggregationField? schema aggregation
  (measure? sizes aggregation field).map fun _ => aggregationKey aggregation field

def requestedKeys (sizes : Sizes) (schema : Schema) (aggregations : List Aggregation) :
    List String :=
  aggregations.filterMap (requestedKey? sizes schema)

def supportedMeasures (sizes : Sizes) (schema : Schema) (aggregations : List Aggregation) :
    List Measure :=
  aggregations.filterMap fun aggregation =>
    measure? sizes aggregation (aggregationField? schema aggregation)

/-- Gives each requested key in turn, after the keys that are taken. -/
def grantKeys (taken : List String) (requested : List String) : List String :=
  requested.foldl (fun granted key => granted ++ [freshKey granted key]) taken

/-- Some key is taken when its turn comes, and its numbered form was asked for before. -/
def Clashing (requested : List String) : Prop :=
  ∃ before key after, requested = before ++ key :: after ∧
    key ∈ grantKeys [] before ∧ numbered key (before.length + 1) ∈ before

theorem position_eq_of_numbered_eq {first second : String} {left right : Nat}
    (same : numbered first left = numbered second right) : left = right := by
  have texts := congrArg String.toList same
  simp only [numbered, String.toList_append, List.append_assoc] at texts
  have digits (position : Nat) : (toString position).toList = Nat.toDigits 10 position := by
    rw [Nat.toString_eq_repr, Nat.toList_repr]
  have noMark (position : Nat) : '_' ∉ Nat.toDigits 10 position := Nat.underscore_not_in_toDigits
  rw [digits, digits] at texts
  -- The digits are what stands behind the last underscore.
  have behind : Nat.toDigits 10 left = Nat.toDigits 10 right := by
    have cut := congrArg (fun text => (text.reverse.takeWhile (· != '_')).reverse) texts
    have keep (front : List Char) (position : Nat) :
        ((front ++ ("_".toList ++ Nat.toDigits 10 position)).reverse.takeWhile
          (· != '_')).reverse = Nat.toDigits 10 position := by
      have plain : ∀ c ∈ (Nat.toDigits 10 position).reverse, (c != '_') = true := by
        intro c member
        have different : c ≠ '_' :=
          fun equal => noMark position (equal ▸ List.mem_reverse.mp member)
        simpa using different
      rw [List.reverse_append, List.reverse_append, List.append_assoc,
        List.takeWhile_append_of_pos plain]
      simp
    rwa [keep, keep] at cut
  have numbers := congrArg (fun text => Nat.ofDigitChars 10 text 0) behind
  simpa using numbers

theorem freshKey_eq (taken : List String) (key : String) :
    freshKey taken key = if key ∈ taken then numbered key (taken.length + 1) else key := by
  simp [freshKey, numbered]

/-- A key clashes when both it and its numbered form are taken. -/
theorem freshKey_mem (taken : List String) (key : String) :
    freshKey taken key ∈ taken ↔ key ∈ taken ∧ numbered key (taken.length + 1) ∈ taken := by
  rw [freshKey_eq]
  split
  · rename_i present
    exact (and_iff_right present).symm
  · rename_i absent
    exact ⟨fun member => absurd member absent, fun both => both.1⟩

theorem grantKeys_snoc (taken requested : List String) (key : String) :
    grantKeys taken (requested ++ [key]) =
      grantKeys taken requested ++ [freshKey (grantKeys taken requested) key] := by
  rw [grantKeys, List.foldl_append]
  rfl

theorem length_grantKeys (requested : List String) :
    (grantKeys [] requested).length = requested.length := by
  induction requested using List.reverseRecOn with
  | nil => rfl
  | append_singleton rest key ih =>
    rw [grantKeys_snoc, List.length_append, ih, List.length_append]
    rfl

theorem mem_grantKeys_of_mem {requested : List String} {key : String} (member : key ∈ requested) :
    key ∈ grantKeys [] requested := by
  induction requested using List.reverseRecOn with
  | nil => exact absurd member List.not_mem_nil
  | append_singleton rest last ih =>
    rw [grantKeys_snoc, List.mem_append, freshKey_eq]
    rcases List.mem_append.mp member with early | final
    · exact Or.inl (ih early)
    · rw [List.mem_singleton.mp final]
      split
      · rename_i present
        exact Or.inl present
      · exact Or.inr (List.mem_singleton.mpr rfl)

theorem mem_or_numbered_of_mem_grantKeys {requested : List String} {key : String}
    (member : key ∈ grantKeys [] requested) :
    key ∈ requested ∨
      ∃ base position, position ≤ requested.length ∧ key = numbered base position := by
  induction requested using List.reverseRecOn with
  | nil => exact Or.inl member
  | append_singleton rest last ih =>
    rw [grantKeys_snoc, freshKey_eq, length_grantKeys] at member
    rw [List.length_append]
    rcases List.mem_append.mp member with early | final
    · rcases ih early with asked | ⟨base, position, bound, same⟩
      · exact Or.inl (List.mem_append_left _ asked)
      · exact Or.inr ⟨base, position, Nat.le_add_right_of_le bound, same⟩
    · have given := List.mem_singleton.mp final
      split at given
      · exact Or.inr ⟨last, rest.length + 1, Nat.le_refl _, given⟩
      · exact Or.inl (given ▸ List.mem_append_right _ (List.mem_singleton.mpr rfl))

theorem numbered_mem_grantKeys (requested : List String) (key : String) :
    numbered key (requested.length + 1) ∈ grantKeys [] requested ↔
      numbered key (requested.length + 1) ∈ requested := by
  refine ⟨fun member => ?_, mem_grantKeys_of_mem⟩
  rcases mem_or_numbered_of_mem_grantKeys member with asked | ⟨base, position, bound, same⟩
  · exact asked
  · -- A key that was numbered carries a smaller position.
    have equal := position_eq_of_numbered_eq same
    omega

theorem clashing_snoc (requested : List String) (key : String) :
    Clashing (requested ++ [key]) ↔
      Clashing requested ∨ key ∈ grantKeys [] requested ∧
        numbered key (requested.length + 1) ∈ requested := by
  constructor
  · rintro ⟨before, taken, after, split, present, asked⟩
    rcases List.eq_nil_or_concat after with rfl | ⟨front, final, rfl⟩
    · obtain ⟨rfl, same⟩ := List.append_inj' split rfl
      obtain ⟨rfl, -⟩ := List.cons.inj same
      exact Or.inr ⟨present, asked⟩
    · rw [List.concat_eq_append, ← List.cons_append, ← List.append_assoc] at split
      obtain ⟨rfl, -⟩ := List.append_inj' split rfl
      exact Or.inl ⟨before, taken, front, rfl, present, asked⟩
  · rintro (⟨before, taken, after, rfl, present, asked⟩ | ⟨present, asked⟩)
    · exact ⟨before, taken, after ++ [key], by simp, present, asked⟩
    · exact ⟨requested, key, [], rfl, present, asked⟩

/-- The keys that are given are distinct exactly when no two clash. -/
theorem nodup_grantKeys_iff (requested : List String) :
    (grantKeys [] requested).Nodup ↔ ¬ Clashing requested := by
  induction requested using List.reverseRecOn with
  | nil =>
    refine iff_of_true List.nodup_nil ?_
    rintro ⟨before, key, after, split, -⟩
    simp at split
  | append_singleton rest key ih =>
    -- The keys before are distinct by induction; the last one is new unless it is given again.
    rw [grantKeys_snoc, clashing_snoc, not_or, ← ih, ← numbered_mem_grantKeys,
      ← length_grantKeys rest, ← freshKey_mem, List.nodup_append_comm, List.singleton_append,
      List.nodup_cons, and_comm]

theorem keys_buildComputations (sizes : Sizes) (schema : Schema) (built : List Computation)
    (aggregations : List Aggregation) :
    (buildComputations sizes schema built aggregations).1.map (·.key) =
      grantKeys (built.map (·.key)) (requestedKeys sizes schema aggregations) := by
  induction aggregations generalizing built with
  | nil => rfl
  | cons aggregation rest ih =>
    rw [buildComputations, requestedKeys, List.filterMap_cons, requestedKey?]
    cases supported : measure? sizes aggregation (aggregationField? schema aggregation) with
    | none => exact ih built
    | some measure =>
      refine (ih _).trans ?_
      rw [List.map_append]
      rfl

theorem measures_buildComputations (sizes : Sizes) (schema : Schema) (built : List Computation)
    (aggregations : List Aggregation) :
    (buildComputations sizes schema built aggregations).1.map (·.measure) =
      built.map (·.measure) ++ supportedMeasures sizes schema aggregations := by
  induction aggregations generalizing built with
  | nil => exact (List.append_nil _).symm
  | cons aggregation rest ih =>
    rw [buildComputations, supportedMeasures, List.filterMap_cons]
    cases supported : measure? sizes aggregation (aggregationField? schema aggregation) with
    | none => exact ih built
    | some measure =>
      refine (ih _).trans ?_
      rw [List.map_append, List.append_assoc]
      rfl

theorem supported_of_mem_computations {sizes : Sizes} {schema : Schema} {intent : Intent}
    {computation : Computation} (member : computation ∈ (plan sizes schema intent).1.computations) :
    ∃ aggregation ∈ intent.aggregations,
      measure? sizes aggregation (aggregationField? schema aggregation) =
        some computation.measure := by
  have measured : computation.measure ∈ supportedMeasures sizes schema intent.aggregations := by
    have measures := measures_buildComputations sizes schema [] intent.aggregations
    rw [List.map_nil, List.nil_append] at measures
    rw [← measures]
    exact List.mem_map_of_mem member
  exact List.mem_filterMap.mp measured

/-- The description of a computation ends with its key in parentheses. -/
def Computation.NamesKey (computation : Computation) : Prop :=
  ∃ words, computation.description = words ++ " (" ++ computation.key ++ ")"

theorem namesKey_buildComputations (sizes : Sizes) (schema : Schema) (built : List Computation)
    (aggregations : List Aggregation) (named : ∀ computation ∈ built, computation.NamesKey) :
    ∀ computation ∈ (buildComputations sizes schema built aggregations).1,
      computation.NamesKey := by
  induction aggregations generalizing built with
  | nil => exact named
  | cons aggregation rest ih =>
    rw [buildComputations]
    cases measure? sizes aggregation (aggregationField? schema aggregation) with
    | none => exact ih built named
    | some measure =>
      refine ih _ ?_
      intro computation member
      rcases List.mem_append.mp member with early | last
      · exact named computation early
      · rw [List.mem_singleton.mp last]
        cases aggregationField? schema aggregation with
        | none => exact ⟨aggregation.kind.name, rfl⟩
        | some field => exact ⟨aggregation.kind.name ++ " of " ++ field.name, rfl⟩

/-- The accepted aggregations of any request compute what was asked for, and the description of
each names its key. Their keys are distinct, and the block of aggregations holds exactly one
entry with its own body for each, if and only if no requested keys clash. -/
theorem compiled_aggregations (sizes : Sizes) (index : String) (schema : Schema)
    (intent : Intent) :
    let computations := (plan sizes schema intent).1.computations
    let block := entriesUnder "aggs" (compile sizes index schema intent).envelope
    let requested := requestedKeys sizes schema intent.aggregations
    computations.map (·.measure) = supportedMeasures sizes schema intent.aggregations ∧
      (∀ computation ∈ computations, computation.NamesKey) ∧
      ((computations.map (·.key)).Nodup ↔ ¬ Clashing requested) ∧
      (block.Perm (computations.map fun computation =>
        (computation.key, computation.measure.encode)) ↔ ¬ Clashing requested) := by
  intro computations block requested
  have keys : computations.map (·.key) = grantKeys [] requested :=
    keys_buildComputations sizes schema [] intent.aggregations
  have distinct : (computations.map (·.key)).Nodup ↔ ¬ Clashing requested := by
    rw [keys]
    exact nodup_grantKeys_iff requested
  have block_eq : block = Json.sortEntries (plan sizes schema intent).1.blockEntries :=
    Envelope.entriesUnder_aggs _
  have blockKeys : (plan sizes schema intent).1.blockEntries.map Prod.fst =
      computations.map (·.key) := by
    rw [Envelope.blockEntries, List.map_map]
    rfl
  refine ⟨measures_buildComputations sizes schema [] intent.aggregations, ?_, distinct, ?_⟩
  · exact namesKey_buildComputations sizes schema [] intent.aggregations (List.forall_mem_nil _)
  · rw [block_eq, ← distinct, ← blockKeys]
    exact Json.sortEntries_perm_iff

/-- Of three aggregations labelled `a_3`, `a` and `a`, the last takes the key of the first. -/
theorem numbered_key_given_twice :
    ¬ ∀ (sizes : Sizes) (schema : Schema) (aggregations : List Aggregation),
      ((buildComputations sizes schema [] aggregations).1.map (·.key)).Nodup := by
  intro distinct
  have once := distinct ⟨20, 100⟩ ⟨[⟨"sentiment_score", .float, none⟩]⟩
    [⟨.avg, some "sentiment_score", some "a_3", []⟩, ⟨.min, some "sentiment_score", some "a", []⟩,
      ⟨.max, some "sentiment_score", some "a", []⟩]
  exact absurd once (by decide +kernel)

end AnalystQuery.Query
