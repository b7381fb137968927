import AnalystQuery.Proofs.IntentCache.Entries
import Mathlib.Data.List.Induction
import Mathlib.Data.List.Infix

/-! How long intents are found. What a cache holds for a key is one intent and the time that it has
left. An intent that is put over a living one takes over that time, so intents are found for as
long as their last `set` says exactly while none is put over a living one with another life. -/

namespace AnalystQuery.IntentCache

/-- What is done with a cache, or while it stands. -/
inductive Access where
  | get (key : String)
  | set (key : String) (intent : Intent) (life : Nat)
  | advance (millis : Nat)

/-- A cache at a time. -/
structure Clocked where
  cache : IntentCache
  now : Nat

def Clocked.get? (clocked : Clocked) (key : String) : Option Intent :=
  clocked.cache.get? clocked.now key

def Clocked.perform (clocked : Clocked) : Access → Clocked
  | .get _ => clocked
  | .set key intent life =>
    { clocked with cache := clocked.cache.set clocked.now key intent life }
  | .advance millis => { clocked with now := clocked.now + millis }

def afterwards (accesses : List Access) : Clocked :=
  accesses.foldl Clocked.perform ⟨.empty true, 0⟩

theorem afterwards_snoc (accesses : List Access) (access : Access) :
    afterwards (accesses ++ [access]) = (afterwards accesses).perform access := by
  rw [afterwards, List.foldl_append]
  rfl

/-- An intent that is found, with the time that it has left. -/
structure Lease where
  intent : Intent
  remaining : Nat

/-- What becomes of the lease of a key. -/
def renew (key : String) (lease : Option Lease) : Access → Option Lease
  | .get _ => lease
  | .set other intent life =>
    if other = key ∧ 0 < life then some ⟨intent, lease.elim life Lease.remaining⟩ else lease
  | .advance millis => lease.bind fun living =>
    if millis < living.remaining then some ⟨living.intent, living.remaining - millis⟩ else none

def lease? (key : String) (accesses : List Access) : Option Lease :=
  accesses.foldl (renew key) none

theorem lease?_snoc (key : String) (accesses : List Access) (access : Access) :
    lease? key (accesses ++ [access]) = renew key (lease? key accesses) access := by
  rw [lease?, List.foldl_append]
  rfl

variable {cache : IntentCache} {key other : String} {intent : Intent} {now later life : Nat}

def Clocked.lease? (clocked : Clocked) (key : String) : Option Lease :=
  (clocked.cache.living? clocked.now key).map fun entry =>
    ⟨entry.intent, entry.expiry - clocked.now⟩

theorem lease?_perform {clocked : Clocked} (enabled : clocked.cache.enabled = true)
    (distinct : clocked.cache.Distinct) (access : Access) :
    (clocked.perform access).lease? key = renew key (clocked.lease? key) access := by
  obtain ⟨cache, now⟩ := clocked
  cases access with
  | get other => rfl
  | advance millis =>
    rw [Clocked.lease?, Clocked.perform, living?_later distinct (Nat.le_add_right now millis),
      Clocked.lease?, renew]
    cases found : cache.living? now key with
    | none => rfl
    | some entry =>
      have alive := expiry_of_living? found
      by_cases lasts : now + millis < entry.expiry
      · have remains : millis < entry.expiry - now := by omega
        simp [lasts, remains, Nat.sub_add_eq]
      · have spent : ¬ millis < entry.expiry - now := by omega
        simp [spent, Nat.le_of_not_lt lasts]
  | set other intent life =>
    rw [Clocked.lease?, Clocked.perform, renew]
    by_cases same : other = key
    · subst same
      by_cases lasting : 0 < life
      · rw [living?_set_self enabled lasting, if_pos ⟨rfl, lasting⟩, Clocked.lease?]
        cases cache.living? now other with
        | none => simp
        | some entry => rfl
      · rw [IntentCache.set, if_neg (by simp [lasting]), if_neg (by simp [lasting])]
        rfl
    · rw [living?_set_of_ne same, if_neg (by simp [same])]
      rfl

theorem sound_afterwards (accesses : List Access) :
    (afterwards accesses).cache.enabled = true ∧ (afterwards accesses).cache.Distinct := by
  induction accesses using List.reverseRecOn with
  | nil => exact ⟨rfl, distinct_empty true⟩
  | append_singleton accesses access ih =>
    obtain ⟨enabled, distinct⟩ := ih
    rw [afterwards_snoc]
    cases access with
    | get other => exact ⟨enabled, distinct⟩
    | set other intent life => exact ⟨enabled_set.trans enabled, distinct.set⟩
    | advance millis => exact ⟨enabled, distinct⟩

theorem lease?_afterwards (key : String) (accesses : List Access) :
    (afterwards accesses).lease? key = lease? key accesses := by
  induction accesses using List.reverseRecOn with
  | nil => rfl
  | append_singleton accesses access ih =>
    obtain ⟨enabled, distinct⟩ := sound_afterwards accesses
    rw [afterwards_snoc, lease?_perform enabled distinct, ih, lease?_snoc]

theorem get?_afterwards (key : String) (accesses : List Access) :
    (afterwards accesses).get? key = (lease? key accesses).map Lease.intent := by
  rw [← lease?_afterwards, Clocked.lease?, Option.map_map]
  rfl

def passed : List Access → Nat
  | [] => 0
  | .advance millis :: later => millis + passed later
  | _ :: later => passed later

/-- The last intent that is put under a key has this life, and was put so long ago. -/
def LastSet (accesses : List Access) (key : String) (intent : Intent) (life ago : Nat) : Prop :=
  ∃ earlier later, accesses = earlier ++ .set key intent life :: later ∧
    (∀ other span, .set key other span ∉ later) ∧ passed later = ago

theorem passed_snoc (accesses : List Access) (access : Access) :
    passed (accesses ++ [access]) = passed accesses + passed [access] := by
  induction accesses with
  | nil => rw [List.nil_append, passed, Nat.zero_add]
  | cons first rest ih => cases first <;> simp [passed, ih, Nat.add_assoc]

theorem lastSet_snoc_iff {accesses : List Access} {access : Access} {ago : Nat} :
    LastSet (accesses ++ [access]) key intent life ago ↔
      (access = .set key intent life ∧ ago = 0) ∨
      ((∀ other span, access ≠ .set key other span) ∧
        ∃ before, LastSet accesses key intent life before ∧ before + passed [access] = ago) := by
  constructor
  · rintro ⟨earlier, later, split, kept, rfl⟩
    rcases List.eq_nil_or_concat later with rfl | ⟨later, last, rfl⟩
    · exact .inl ⟨(List.append_inj' split rfl).2 |> List.singleton_inj.mp, rfl⟩
    · rw [List.concat_eq_append, ← List.cons_append, ← List.append_assoc] at split
      obtain ⟨rfl, same⟩ := List.append_inj' split rfl
      obtain rfl := List.singleton_inj.mp same
      refine .inr ⟨fun other span put => kept other span (by simp [put]),
        passed later, ⟨earlier, later, rfl, fun other span member => ?_, rfl⟩, ?_⟩
      · exact kept other span (by simp [member])
      · rw [List.concat_eq_append, passed_snoc]
  · rintro (⟨rfl, rfl⟩ | ⟨unreplaced, before, ⟨earlier, later, rfl, kept, rfl⟩, rfl⟩)
    · exact ⟨accesses, [], rfl, fun _ _ => List.not_mem_nil, rfl⟩
    · refine ⟨earlier, later ++ [access], by simp, fun other span member => ?_, passed_snoc _ _⟩
      rcases List.mem_append.mp member with member | member
      · exact kept other span member
      · exact unreplaced other span (List.mem_singleton.mp member).symm

/-- What is left of the life of the last intent. -/
def LeftOver (accesses : List Access) (key : String) (lease : Lease) : Prop :=
  ∃ life ago, LastSet accesses key lease.intent life ago ∧ ago < life ∧
    lease.remaining = life - ago

variable {accesses : List Access} {lease : Lease} {millis : Nat}

theorem leftOver_get_iff :
    LeftOver (accesses ++ [.get other]) key lease ↔ LeftOver accesses key lease := by
  simp [LeftOver, lastSet_snoc_iff, passed]

theorem leftOver_set_iff : LeftOver (accesses ++ [.set other intent life]) key lease ↔
    if other = key then 0 < life ∧ lease = ⟨intent, life⟩ else LeftOver accesses key lease := by
  obtain ⟨found, remaining⟩ := lease
  split
  next same =>
    subst same
    simp only [LeftOver, lastSet_snoc_iff]
    constructor
    · rintro ⟨span, ago, ⟨put, rfl⟩ | ⟨unreplaced, -⟩, alive, rfl⟩
      · cases put
        exact ⟨alive, rfl⟩
      · exact absurd rfl (unreplaced intent life)
    · rintro ⟨alive, put⟩
      cases put
      exact ⟨life, 0, .inl ⟨rfl, rfl⟩, alive, rfl⟩
  next different => simp [LeftOver, lastSet_snoc_iff, passed, different]

theorem leftOver_advance_iff : LeftOver (accesses ++ [.advance millis]) key lease ↔
    0 < lease.remaining ∧ LeftOver accesses key ⟨lease.intent, lease.remaining + millis⟩ := by
  simp only [LeftOver, lastSet_snoc_iff]
  constructor
  · rintro ⟨life, ago, ⟨put, -⟩ | ⟨-, before, last, rfl⟩, alive, left⟩
    · cases put
    · rw [passed, passed] at alive left
      exact ⟨by omega, life, before, last, by omega, by omega⟩
  · rintro ⟨alive, life, before, last, lives, left⟩
    refine ⟨life, before + millis, .inr ⟨by simp, before, last, rfl⟩, ?_, ?_⟩ <;> omega

/-- Some intent is put over a living one, and is given another life than that one has left. -/
def Clashes (accesses : List Access) : Prop :=
  ∃ begun key intent life lease, begun ++ [.set key intent life] <+: accesses ∧
    lease? key begun = some lease ∧ lease.remaining ≠ life

theorem Clashes.of_prefix {begun : List Access} (clash : Clashes begun)
    (reached : begun <+: accesses) : Clashes accesses := by
  obtain ⟨before, key, intent, life, lease, put, living, another⟩ := clash
  exact ⟨before, key, intent, life, lease, put.trans reached, living, another⟩

theorem renew_advance_iff {held : Option Lease} :
    renew key held (.advance millis) = some lease ↔
      0 < lease.remaining ∧ held = some ⟨lease.intent, lease.remaining + millis⟩ := by
  obtain ⟨intent, remaining⟩ := lease
  rw [renew, Option.bind_eq_some_iff]
  constructor
  · rintro ⟨living, rfl, found⟩
    rw [Option.ite_none_right_eq_some] at found
    obtain ⟨lasts, found⟩ := found
    cases found
    exact ⟨Nat.sub_pos_of_lt lasts, by rw [Nat.sub_add_cancel lasts.le]⟩
  · rintro ⟨alive, rfl⟩
    exact ⟨_, rfl, by simpa [Nat.pos_iff_ne_zero] using alive⟩

/-- While no lives clash, a lease is what is left of the life of the last intent. -/
theorem lease?_eq_some_iff (apart : ¬ Clashes accesses) :
    lease? key accesses = some lease ↔ LeftOver accesses key lease := by
  induction accesses using List.reverseRecOn generalizing lease with
  | nil =>
    constructor
    · intro found
      cases found
    · rintro ⟨life, ago, ⟨earlier, later, split, -⟩, -⟩
      simp at split
  | append_singleton accesses access ih =>
    have before {lease : Lease} := @ih lease fun clash => apart (clash.of_prefix (by simp))
    rw [lease?_snoc]
    cases access with
    | get other => rw [leftOver_get_iff, ← before, renew]
    | advance millis => rw [leftOver_advance_iff, ← before, renew_advance_iff]
    | set other intent life =>
      rw [leftOver_set_iff, renew]
      split
      next replaced =>
        obtain ⟨rfl, lasting⟩ := replaced
        -- The time that is taken over is the life that is given, for else the lives clash.
        have kept : (lease? other accesses).elim life Lease.remaining = life := by
          cases found : lease? other accesses with
          | none => rfl
          | some living =>
            by_contra another
            exact apart ⟨accesses, other, intent, life, living, List.prefix_refl _, found, another⟩
        rw [kept, if_pos rfl, Option.some_inj, eq_comm]
        exact (and_iff_right lasting).symm
      next unreplaced =>
        split
        next same =>
          subst same
          refine ⟨fun found => absurd ?_ apart, fun put => absurd ⟨rfl, put.1⟩ unreplaced⟩
          refine ⟨accesses, other, intent, life, lease, List.prefix_refl _, found, fun same => ?_⟩
          obtain ⟨_, _, -, _, left⟩ := before.mp found
          exact unreplaced ⟨rfl, by omega⟩
        next => exact before

/-- A key has the intent that was last put under it, until the life of that intent is over. -/
def FoundAsSet (accesses : List Access) : Prop :=
  ∀ key intent, (afterwards accesses).get? key = some intent ↔
    ∃ life ago, LastSet accesses key intent life ago ∧ ago < life

theorem foundAsSet (apart : ¬ Clashes accesses) : FoundAsSet accesses := by
  intro key intent
  rw [get?_afterwards, Option.map_eq_some_iff]
  constructor
  · rintro ⟨lease, found, rfl⟩
    obtain ⟨life, ago, last, alive, -⟩ := (lease?_eq_some_iff apart).mp found
    exact ⟨life, ago, last, alive⟩
  · rintro ⟨life, ago, last, alive⟩
    exact ⟨⟨intent, life - ago⟩, (lease?_eq_some_iff apart).mpr ⟨life, ago, last, alive, rfl⟩, rfl⟩

/-- An intent that is put over a living one is lost too early or found too long. -/
theorem not_foundAsSet_of_clash {key : String} (intent : Intent) {life : Nat}
    (living : lease? key accesses = some lease) (another : lease.remaining ≠ life) :
    ∃ millis, ¬ FoundAsSet (accesses ++ [.set key intent life] ++ [.advance millis]) := by
  have put (millis : Nat) :
      LastSet (accesses ++ [.set key intent life] ++ [.advance millis]) key intent life millis :=
    lastSet_snoc_iff.mpr <| .inr ⟨by simp, 0, lastSet_snoc_iff.mpr <| .inl ⟨rfl, rfl⟩,
      Nat.zero_add millis⟩
  rcases Nat.lt_or_gt_of_ne another with short | long
  · refine ⟨lease.remaining, fun found => ?_⟩
    have answered := (found key intent).mpr ⟨life, _, put _, short⟩
    rw [get?_afterwards, lease?_snoc, lease?_snoc, living, renew,
      if_pos ⟨rfl, Nat.zero_lt_of_lt short⟩, renew] at answered
    simp at answered
  · refine ⟨life, fun found => ?_⟩
    obtain ⟨lasting, held, remains⟩ : ∃ lasting : Lease,
        lease? key (accesses ++ [.set key intent life]) = some lasting ∧
          lasting.remaining = lease.remaining := by
      rw [lease?_snoc, living, renew]
      split
      · exact ⟨_, rfl, rfl⟩
      · exact ⟨_, rfl, rfl⟩
    have answered : (afterwards (accesses ++ [.set key intent life] ++ [.advance life])).get? key =
        some lasting.intent := by
      rw [get?_afterwards, lease?_snoc, held, renew, Option.bind_some,
        if_pos (remains.symm ▸ long)]
      rfl
    obtain ⟨span, ago, last, alive⟩ := (found key lasting.intent).mp answered
    rcases lastSet_snoc_iff.mp last with ⟨same, -⟩ | ⟨-, before, placed, rfl⟩
    · cases same
    · rcases lastSet_snoc_iff.mp placed with ⟨same, rfl⟩ | ⟨unreplaced, -⟩
      · cases same
        simp [passed] at alive
      · exact unreplaced intent life rfl

/-- A cache answers with the intent of the lease. In particular every intent is found, at every
time, until the life that it was put with is over, exactly if no lives clash. -/
theorem found_as_set_iff (accesses : List Access) :
    (∀ key, (afterwards accesses).get? key = (lease? key accesses).map Lease.intent) ∧
    ((∀ begun millis, begun <+: accesses → FoundAsSet (begun ++ [.advance millis])) ↔
      ¬ Clashes accesses) := by
  refine ⟨fun key => get?_afterwards key accesses, ?_, ?_⟩
  · rintro found ⟨begun, key, intent, life, lease, reached, living, another⟩
    obtain ⟨millis, lost⟩ := not_foundAsSet_of_clash intent living another
    exact lost (found _ millis reached)
  · rintro apart begun millis reached
    refine foundAsSet fun clash => apart ?_
    obtain ⟨before, key, intent, life, lease, put, living, another⟩ := clash
    rcases List.prefix_concat_iff.mp put with same | put
    · cases (List.append_inj' same rfl).2
    · exact ⟨before, key, intent, life, lease, put.trans reached, living, another⟩

/-- An intent that is put over another one for a second is lost with the other one. -/
theorem second_intent_lost : ¬ FoundAsSet
    [.set "k" (.plain .trend .zero) 100, .advance 50,
      .set "k" (.plain .search .zero) 1000, .advance 60] := by
  intro found
  have last : LastSet [.set "k" (.plain .trend .zero) 100, .advance 50,
      .set "k" (.plain .search .zero) 1000, .advance 60] "k" (.plain .search .zero) 1000 60 :=
    ⟨[.set "k" (.plain .trend .zero) 100, .advance 50], [.advance 60], rfl, by simp, rfl⟩
  have answered := (found "k" _).mpr ⟨1000, 60, last, by decide⟩
  rw [get?_afterwards] at answered
  cases answered

end AnalystQuery.IntentCache
