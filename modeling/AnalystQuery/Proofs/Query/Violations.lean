import AnalystQuery.Pipeline.Compiling
import AnalystQuery.Proofs.Json.Places
import AnalystQuery.Proofs.Query.Inspection

/-! Which violations an inspection reports: one for each key that offends, in the order of the
document and with the path to the key. -/

namespace AnalystQuery.Query

open Json (Place Step)

def pathFrom (path : String) (place : Place) : String :=
  place.foldl (fun path step =>
    match step with
    | .key name => joinPath path name
    | .item index => path ++ "[" ++ toString index ++ "]") path

/-- Whether the key at a place may stand nowhere. -/
def endsForbidden (place : Place) : Bool :=
  match place.getLast? with
  | some (.key name) => isForbiddenKey name
  | _ => false

/-- Whether a place is a key at the top that is not allowed there. -/
def isUnlisted (allowed : List String) (place : Place) : Bool :=
  match place with
  | [.key name] => !allowed.contains name
  | _ => false

def offends (allowed : List String) (place : Place) : Bool :=
  isUnlisted allowed place || endsForbidden place

theorem endsForbidden_cons (step : Step) {place : Place} (nonempty : place ≠ []) :
    endsForbidden (step :: place) = endsForbidden place := by
  obtain ⟨next, rest, rfl⟩ := List.exists_cons_of_ne_nil nonempty
  rw [endsForbidden, endsForbidden, List.getLast?_cons_cons]

def reported (found : List Finding) : List String := found.filterMap Finding.violation?

theorem reported_append (first second : List Finding) :
    reported (first ++ second) = reported first ++ reported second :=
  List.filterMap_append

theorem reported_keyFindings (key path : String) (position : Position) :
    reported (keyFindings key path position) = if isForbiddenKey key then [path] else [] := by
  rw [keyFindings]
  split
  · rfl
  · split <;> rfl

/-- The paths of the places below a path that a test picks out. -/
def selected (picks : Place → Bool) (path : String) (places : List Place) : List String :=
  (places.filter picks).map (pathFrom path)

theorem selected_cons (picks : Place → Bool) (path : String) (first : Place)
    (rest : List Place) :
    selected picks path (first :: rest) =
      (if picks first then [pathFrom path first] else []) ++ selected picks path rest := by
  rw [selected, selected, List.filter_cons]
  split <;> rfl

theorem selected_append (picks : Place → Bool) (path : String) (first second : List Place) :
    selected picks path (first ++ second) =
      selected picks path first ++ selected picks path second := by
  simp [selected]

theorem selected_map_cons {picks : Place → Bool} {step : Step} {path : String}
    {places : List Place} (same : ∀ place ∈ places, picks (step :: place) = endsForbidden place) :
    selected picks path (places.map (step :: ·)) =
      selected endsForbidden (pathFrom path [step]) places := by
  have filtered : places.filter (picks ∘ (step :: ·)) = places.filter endsForbidden :=
    List.filter_congr same
  rw [selected, selected, List.filter_map, filtered, List.map_map]
  rfl

theorem selected_below (step : Step) (path : String) (value : Json) :
    selected endsForbidden path (value.keyPlaces.map (step :: ·)) =
      selected endsForbidden (pathFrom path [step]) value.keyPlaces :=
  selected_map_cons fun _ member => endsForbidden_cons step (Json.mem_keyPlaces.mp member).ne_nil

theorem reported_findings (path : String) (position : Position) (value : Json) :
    reported (findings path position value) = selected endsForbidden path value.keyPlaces := by
  induction value using Json.nested generalizing path position with
  | object entries ih =>
    rw [findings, Json.keyPlaces]
    induction entries with
    | nil => rfl
    | cons entry rest inner =>
      obtain ⟨key, value⟩ := entry
      have own := ih (key, value) List.mem_cons_self (joinPath path key) (position.child key)
      have later := inner fun other member => ih other (List.mem_cons_of_mem _ member)
      rw [entryFindings, reported_append, reported_append, reported_keyFindings, own, later,
        Json.entryPlaces, selected_append, selected_cons, selected_below]
      rfl
  | array items ih =>
    rw [findings, Json.keyPlaces]
    -- Items are numbered, so the index of the first one has to vary.
    suffices numbered : ∀ index, reported (itemFindings path position index items) =
        selected endsForbidden path (Json.itemPlaces index items) from numbered 0
    induction items with
    | nil => exact fun index => rfl
    | cons item rest inner =>
      intro index
      have own := ih item List.mem_cons_self (path ++ "[" ++ toString index ++ "]") position
      have later := inner (fun other member => ih other (List.mem_cons_of_mem item member))
        (index + 1)
      rw [itemFindings, reported_append, own, later, Json.itemPlaces, selected_append,
        selected_below]
      rfl
  | null | bool | integer | float | string => rfl

theorem reported_topFindings (allowed : List String) (key : String) (value : Json) :
    reported (topFindings allowed key value) =
      selected (offends allowed) "" ([.key key] :: value.keyPlaces.map (.key key :: ·)) := by
  have top : pathFrom "" [.key key] = key := by simp [pathFrom, joinPath]
  have below : selected (offends allowed) "" (value.keyPlaces.map (.key key :: ·)) =
      selected endsForbidden key value.keyPlaces := by
    rw [selected_map_cons, top]
    intro place member
    obtain ⟨next, rest, rfl⟩ := List.exists_cons_of_ne_nil (Json.mem_keyPlaces.mp member).ne_nil
    rw [offends, endsForbidden_cons _ (List.cons_ne_nil _ _)]
    rfl
  have offending : offends allowed [.key key] =
      (!allowed.contains key || isForbiddenKey key) := rfl
  rw [topFindings, reported_append, reported_findings, selected_cons, below, top, offending]
  congr 1
  cases allowed.contains key with
  | true => exact reported_keyFindings key key .other
  | false => rfl

/-- What is reported of an object, as a list computed from the places of its keys. -/
theorem violations_object (allowed : List String) (entries : List (String × Json)) :
    violations allowed (.object entries) =
      selected (offends allowed) "" (Json.object entries).keyPlaces := by
  change reported (inspect allowed (.object entries)) = _
  rw [inspect, Json.keyPlaces]
  induction entries with
  | nil => rfl
  | cons entry rest ih =>
    rw [List.flatMap_cons, reported_append, ih, reported_topFindings, Json.entryPlaces,
      selected_append]

theorem violations_eq_nil_iff_inoffensive (allowed : List String) (envelope : Json) :
    violations allowed envelope = [] ↔
      (∃ entries, envelope = .object entries) ∧
        ∀ place, envelope.KeyAt place → offends allowed place = false := by
  cases envelope with
  | object entries =>
    rw [violations_object, selected, List.map_eq_nil_iff, List.filter_eq_nil_iff]
    simp [Json.mem_keyPlaces]
  | null | bool | integer | float | string | array =>
    refine iff_of_false ?_ ?_
    · simp [violations, inspect, Finding.violation?]
    · rintro ⟨⟨entries, ⟨⟩⟩, -⟩

end AnalystQuery.Query

namespace AnalystQuery.Pipeline

theorem checkSecurity_run (pipeline : Pipeline) (query : GeneratedQuery) (session : Session) :
    (pipeline.checkSecurity query).run.run session =
      let violations := Query.violations pipeline.settings.pipeline.topLevelKeys query.envelope
      let entered :=
        { session with journal := session.journal ++ [.entered .securityValidating] }
      if violations.isEmpty then .done (.ok (), entered)
      else
        .done (.error (.validation (.unsafeQuery violations)),
          { entered with journal := entered.journal ++ [.counted .validationFailures] }) := by
  unfold checkSecurity
  cases Query.violations pipeline.settings.pipeline.topLevelKeys query.envelope <;> rfl

/-- Whether the check of security lets a query pass in every session. -/
def AcceptsEnvelope (pipeline : Pipeline) (query : GeneratedQuery) : Prop :=
  ∀ session, ∃ after, (pipeline.checkSecurity query).run.run session = .done (.ok (), after)

theorem acceptsEnvelope_iff (pipeline : Pipeline) (query : GeneratedQuery) :
    pipeline.AcceptsEnvelope query ↔
      Query.violations pipeline.settings.pipeline.topLevelKeys query.envelope = [] := by
  constructor
  · intro accepts
    obtain ⟨after, passed⟩ := accepts (.fresh true)
    rw [checkSecurity_run] at passed
    cases found : Query.violations pipeline.settings.pipeline.topLevelKeys query.envelope with
    | nil => rfl
    | cons first others =>
      rw [found] at passed
      cases passed
  · intro none session
    rw [checkSecurity_run, none]
    exact ⟨_, rfl⟩

end AnalystQuery.Pipeline

namespace AnalystQuery.Query

open Json (Place)

/-- Of an object exactly the keys that offend are reported, each once with its path and in the
order of the document; anything else makes one violation. A pipeline accepts an envelope if and
only if it is an object in which no key offends. -/
theorem violations_exact (allowed : List String) (envelope : Json) (ordered : envelope.Ordered) :
    (∀ entries, envelope = .object entries →
      ∃ places : List Place,
        (∀ place, place ∈ places ↔ envelope.KeyAt place ∧ offends allowed place = true) ∧
          places.Pairwise Place.Before ∧
          violations allowed envelope = places.map (pathFrom "")) ∧
      ((∀ entries, envelope ≠ .object entries) →
        violations allowed envelope = ["$ (envelope is not an object)"]) ∧
      ∀ (pipeline : Pipeline) (query : GeneratedQuery),
        pipeline.settings.pipeline.topLevelKeys = allowed → query.envelope = envelope →
          (pipeline.AcceptsEnvelope query ↔
            (∃ entries, envelope = .object entries) ∧
              ∀ place, envelope.KeyAt place → offends allowed place = false) := by
  refine ⟨?_, ?_, ?_⟩
  · rintro entries rfl
    refine ⟨(Json.object entries).keyPlaces.filter (offends allowed), ?_, ?_, ?_⟩
    · intro place
      rw [List.mem_filter, Json.mem_keyPlaces]
    · exact (Json.pairwise_keyPlaces ordered).filter _
    · exact violations_object allowed entries
  · intro other
    cases envelope with
    | object entries => exact absurd rfl (other entries)
    | null | bool | integer | float | string | array => rfl
  · rintro pipeline query rfl rfl
    rw [Pipeline.acceptsEnvelope_iff, violations_eq_nil_iff_inoffensive]

private def nestedScripts : Json :=
  .object [("query", .object [("bool", .object [("filter", .array
    [.object [("term", .object [("channel", .string "email")])],
     .object [("script", .object [("SCRIPT", .object [("source", .string "1")])])]])])])]

theorem nested_scripts_reported :
    nestedScripts.Ordered ∧
      (∃ places : List Place,
        (∀ place, place ∈ places ↔
          nestedScripts.KeyAt place ∧ offends defaultTopLevelKeys place = true) ∧
          places.Pairwise Place.Before ∧
          violations defaultTopLevelKeys nestedScripts = places.map (pathFrom "")) ∧
      violations defaultTopLevelKeys nestedScripts =
        ["query.bool.filter[1].script", "query.bool.filter[1].script.SCRIPT"] := by
  have ordered : nestedScripts.Ordered := by
    simp [nestedScripts, Json.ordered_object, Json.ordered_array, Json.SortedByKey,
      Json.Ordered.string]
  refine ⟨ordered, (violations_exact defaultTopLevelKeys nestedScripts ordered).1 _ rfl, ?_⟩
  decide +kernel

end AnalystQuery.Query
