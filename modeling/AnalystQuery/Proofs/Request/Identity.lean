import AnalystQuery.Pipeline.Compiling
import AnalystQuery.Proofs.Intent.Echo
import AnalystQuery.Proofs.Text.Words

/-! What the key of a request tells of it. Where digests do not collide, requests with one key
have one identity, and requests with one identity and one index put the same question to the
language model, up to white space. -/

namespace AnalystQuery

theorem Text.hexValue?_hexDigit {value : Nat} (small : value < 16) :
    hexValue? (hexDigit value) = some value := by
  revert value
  decide

theorem Text.hexDigits_injective : Function.Injective hexDigits := by
  intro first second same
  obtain ⟨high, low⟩ : hexDigit (first.toNat / 16) = hexDigit (second.toNat / 16) ∧
      hexDigit (first.toNat % 16) = hexDigit (second.toNat % 16) := by
    simpa [hexDigits] using same
  have firstByte := first.toNat_lt
  have secondByte := second.toNat_lt
  have digit {left right : Nat} (smallLeft : left < 16) (smallRight : right < 16)
      (same : hexDigit left = hexDigit right) : left = right := by
    have values := congrArg hexValue? same
    rw [hexValue?_hexDigit smallLeft, hexValue?_hexDigit smallRight] at values
    exact Option.some.inj values
  have highs := digit (by omega) (by omega) high
  have lows := digit (by omega) (by omega) low
  exact UInt8.toNat_inj.mp (by omega)

theorem Digest.hexadecimal_injective : Function.Injective hexadecimal := by
  intro first second same
  have digits := congrArg String.toList same
  rw [hexadecimal, hexadecimal, String.toList_ofList, String.toList_ofList] at digits
  clear same
  induction first generalizing second with
  | nil =>
    cases second with
    | nil => rfl
    | cons other more => simp [Text.hexDigits] at digits
  | cons byte rest ih =>
    cases second with
    | nil => simp [Text.hexDigits] at digits
    | cons other more =>
      rw [List.flatMap_cons, List.flatMap_cons] at digits
      obtain ⟨head, tail⟩ := List.append_inj digits rfl
      rw [Text.hexDigits_injective head, ih tail]

namespace Request

open Intent (resorted)
open Json (ReadsAs compactText)

theorem Identity.readsAs_encode (identity : Identity) :
    ReadsAs Json.nestingLimit (compactText identity.encode) (resorted identity.encode) := by
  refine Intent.readsAs_record ?_
  simp only [List.forall_mem_cons]
  exact ⟨Json.readsAs_string _, Intent.readsAs_ofOption _, Json.readsAs_string _,
    Intent.readsAs_ofOption _, Intent.readsAs_strings _, List.forall_mem_nil _⟩

theorem ofOption_string_injective : Function.Injective (Json.ofOption Json.string) := by
  rintro (- | first) (- | second) same
  · rfl
  · cases same
  · cases same
  · rw [Json.string.inj same]

theorem strings_injective : Function.Injective Json.strings := by
  intro first second same
  exact List.map_injective_iff.mpr (fun _ _ => Json.string.inj) (Json.array.inj same)

theorem Identity.get?_resorted (identity : Identity) (key : String) :
    (resorted identity.encode).get? key = identity.encode.get? key := by
  have names : ["query", "context", "index", "timezone", "history"].Nodup := by decide
  refine Json.lookup_sortEntries ?_ key
  exact names

theorem Identity.eq_of_resorted {first second : Identity}
    (same : resorted first.encode = resorted second.encode) : first = second := by
  have found (key : String) : first.encode.get? key = second.encode.get? key := by
    rw [← get?_resorted, same, get?_resorted]
  have questions := Json.string.inj (Option.some.inj (found "query"))
  have contexts := ofOption_string_injective (Option.some.inj (found "context"))
  have indexes := Json.string.inj (Option.some.inj (found "index"))
  have timezones := ofOption_string_injective (Option.some.inj (found "timezone"))
  have histories := strings_injective (Option.some.inj (found "history"))
  cases first
  cases second
  cases questions
  cases contexts
  cases indexes
  cases timezones
  cases histories
  rfl

/-- The text that is digested tells identities apart. -/
theorem Identity.canonicalText_injective : Function.Injective Identity.canonicalText := by
  intro first second same
  have read := congrArg Json.read? same
  rw [canonicalText, canonicalText, Json.compact, Json.compact, first.readsAs_encode.read?,
    second.readsAs_encode.read?] at read
  exact eq_of_resorted (Option.some.inj read)

/-- Among these requests, different texts have different digests. -/
def CollisionFree (window : Nat) (requests : List Request) : Prop :=
  ∀ first ∈ requests, ∀ second ∈ requests,
    Digest.sha256 (first.identity window).canonicalText.toUTF8.toList =
        Digest.sha256 (second.identity window).canonicalText.toUTF8.toList →
      (first.identity window).canonicalText = (second.identity window).canonicalText

theorem collisionFree_of_identity {window : Nat} {requests : List Request} {identity : Identity}
    (one : ∀ request ∈ requests, request.identity window = identity) :
    CollisionFree window requests := by
  intro first firstListed second secondListed _
  rw [one first firstListed, one second secondListed]

theorem CollisionFree.cacheKey_eq_iff {window : Nat} {requests : List Request}
    (free : CollisionFree window requests) {first second : Request} (one : first ∈ requests)
    (other : second ∈ requests) :
    first.cacheKey window = second.cacheKey window ↔
      first.identity window = second.identity window := by
  constructor
  · intro same
    exact Identity.canonicalText_injective
      (free first one second other (Digest.hexadecimal_injective same))
  · intro same
    rw [cacheKey, cacheKey, same]

theorem zoneOffset_identity (request : Request) (window : Nat) :
    (request.identity window).timezone.elim 0 Calendar.zoneOffset =
      request.timezone.elim 0 Calendar.zoneOffset := by
  rw [identity]
  cases request.timezone with
  | none => rfl
  | some text =>
    have bare : (Text.trim text).toList = Text.trimmed text.toList := by
      rw [Text.trim, String.toList_ofList]
    rw [Option.bind_some, present?, Option.elim_some]
    by_cases blank : Text.trim text = ""
    · rw [if_pos blank, Calendar.zoneOffset, ← bare, blank]
      rfl
    · rw [if_neg blank, Option.elim_some, Calendar.zoneOffset, Calendar.zoneOffset, bare,
        (Text.isTrimmed_trimmed text.toList).trimmed_eq]

end Request

namespace Prompt

open Request (present?)
open Text (wordsOf EndsWord squash trim)

theorem wordsOf_trim_append {last : String} (blank : last.toList.all Text.isBlank = true)
    (text : String) : wordsOf (trim text ++ last).toList = wordsOf text.toList := by
  have inner : wordsOf ([] ++ (trim text).toList ++ last.toList) = wordsOf (trim text).toList :=
    Text.wordsOf_append_of_blank (List.forall_mem_nil _) (List.all_eq_true.mp blank)
  rw [List.nil_append] at inner
  rw [String.toList_append, inner, trim, String.toList_ofList, Text.wordsOf_trimmed]

theorem wordsOf_line (text : String) :
    wordsOf (trim text ++ "\n").toList = wordsOf text.toList :=
  wordsOf_trim_append (by decide) text

theorem endsWord_line (text : String) : EndsWord (text ++ "\n") :=
  Text.endsWord_append_of_last text (c := '\n') (by decide) (by decide)

theorem endsWord_setting (request : Request) (schema : Schema) (now : String) :
    EndsWord (setting request schema now) := by
  delta setting
  exact endsWord_line _

theorem endsWord_historyLines (number : Nat) (history : List String) :
    EndsWord (String.join (historyLines number history)) := by
  induction history generalizing number with
  | nil => exact Text.endsWord_empty
  | cons question rest ih =>
    rw [historyLines, String.join_cons]
    exact (endsWord_line _).append (ih _)

theorem wordsOf_historyLines (number : Nat) (history : List String) :
    wordsOf (String.join (historyLines number (history.map squash))).toList =
      wordsOf (String.join (historyLines number history)).toList := by
  induction history generalizing number with
  | nil => rfl
  | cons question rest ih =>
    have numbered : EndsWord (toString number ++ ". ") :=
      Text.endsWord_append_of_last _ (c := ' ') (by decide) (by decide)
    rw [List.map_cons, historyLines, historyLines, String.join_cons, String.join_cons,
      endsWord_line, endsWord_line, ih, String.append_assoc, numbered, wordsOf_line,
      String.append_assoc, numbered, wordsOf_line, Text.wordsOf_squash]

theorem endsWord_earlierQuestions (history : List String) :
    EndsWord (earlierQuestions history) := by
  rw [earlierQuestions]
  split
  · exact Text.endsWord_empty
  · exact endsWord_line _

theorem wordsOf_earlierQuestions (history : List String) :
    wordsOf (earlierQuestions (history.map squash)).toList =
      wordsOf (earlierQuestions history).toList := by
  have heading : EndsWord "Previous questions in this session (oldest first):\n" :=
    Text.endsWord_of_last (c := '\n') (by decide) (by decide)
  cases history with
  | nil => rfl
  | cons question rest =>
    rw [earlierQuestions, if_neg (by simp), earlierQuestions, if_neg (by simp),
      String.append_assoc, heading, endsWord_historyLines, wordsOf_historyLines,
      String.append_assoc, heading, endsWord_historyLines]

theorem endsWord_additionalContext (context : Option String) :
    EndsWord (additionalContext context) := by
  rw [additionalContext]
  split
  · exact Text.endsWord_append_of_last _ (c := '\n') (by decide) (by decide)
  · exact Text.endsWord_empty

theorem additionalContext_some (text : String) :
    additionalContext (some text) =
      if trim text = "" then "" else "Additional context: " ++ trim text ++ "\n\n" := by
  rw [additionalContext, Option.map_some]
  by_cases blank : trim text = ""
  · rw [blank]
    rfl
  · simp [Option.filter, blank]

theorem wordsOf_additionalContext (context : Option String) :
    wordsOf (additionalContext (context.bind fun text => present? (squash text))).toList =
      wordsOf (additionalContext context).toList := by
  cases context with
  | none => rfl
  | some text =>
    rw [Option.bind_some, present?, additionalContext_some]
    by_cases blank : trim text = ""
    · rw [if_pos ((Text.squash_eq_empty_iff text).mpr blank), if_pos blank]
      rfl
    · have visible : squash text ≠ "" := fun empty =>
        blank ((Text.squash_eq_empty_iff text).mp empty)
      have settled : squash (squash text) = squash text :=
        (Text.squash_eq_iff _ _).mpr (Text.wordsOf_squash text)
      have stillVisible : trim (squash text) ≠ "" := fun empty =>
        visible (settled.symm.trans ((Text.squash_eq_empty_iff _).mpr empty))
      have heading : EndsWord "Additional context: " :=
        Text.endsWord_of_last (c := ' ') (by decide) (by decide)
      have told (text : String) : wordsOf ("Additional context: " ++ trim text ++ "\n\n").toList =
          wordsOf "Additional context: ".toList ++ wordsOf text.toList := by
        rw [String.append_assoc, heading, wordsOf_trim_append (by decide)]
      rw [if_neg visible, additionalContext_some, if_neg stillVisible, if_neg blank, told, told,
        Text.wordsOf_squash]

/-- Requests with one identity put one question, up to white space. -/
theorem squash_question {first second : Request} {window : Nat} (schema : Schema) (now : String)
    (same : first.identity window = second.identity window) (index : first.index = second.index) :
    squash (question first schema window now) = squash (question second schema window now) := by
  have questions : wordsOf first.question.toList = wordsOf second.question.toList :=
    (Text.squash_eq_iff _ _).mp (congrArg Request.Identity.question same)
  have histories := congrArg Request.Identity.history same
  have contexts := congrArg Request.Identity.context same
  have label : EndsWord "Question: " :=
    Text.endsWord_of_last (c := ' ') (by decide) (by decide)
  have parts (request : Request) : wordsOf (question request schema window now).toList =
      wordsOf (setting request schema now).toList ++
        (wordsOf (earlierQuestions ((request.recentHistory window).map squash)).toList ++
        (wordsOf (additionalContext
          (request.context.bind fun text => present? (squash text))).toList ++
        (wordsOf "Question: ".toList ++ wordsOf request.question.toList))) := by
    simp only [question, String.append_assoc]
    rw [endsWord_setting, endsWord_earlierQuestions, endsWord_additionalContext, label,
      wordsOf_line, wordsOf_earlierQuestions, wordsOf_additionalContext]
  have settings : setting first schema now = setting second schema now := by
    delta setting
    rw [index]
  rw [Text.squash_eq_iff, parts, parts, settings, questions]
  simp only [Request.identity] at histories contexts
  rw [histories, contexts]

end Prompt

end AnalystQuery
