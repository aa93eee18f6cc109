import GridStore.Cache
import GridStore.Proofs.Entries

/-!
# Caches as maps with expiry

What a cache finds under a key is decided by the last answer that was put there since the cache was
last cleared, and by the age of that answer. Looking for an answer forgets it if it is too old, but
such an answer would not be found at any later time either.

## Main definitions

* `CacheUse`: the uses of a cache.
* `CacheUse.LastPut`: the answer that was last put under a key since the cache was last cleared.
* `ResponseCache.after`: the cache after a history of uses.
* `ResponseCache.Recalls`: what the entries of a cache have to do with a history.

## Main results

* `ResponseCache.fst_get_eq_some_iff`: what is found in a cache with given entries.
* `ResponseCache.Recalls.after`: entries are the answers last put, less some that are too old.
* `ResponseCache.finds_last_put_iff`: what is found after any history.
-/

namespace GridStore

variable {α : Type}

/-! ### One use -/

namespace ResponseCache

variable {cache : ResponseCache α} {now : Nat} {key : String} {answer : α}

theorem isExpired_eq_false_iff {stored : Nat} : cache.isExpired stored now = false ↔
    ∀ greatest ∈ cache.maxAge, now - stored ≤ greatest := by
  rw [isExpired]
  cases cache.maxAge with
  | none => simp
  | some greatest => simp

theorem isExpired_of_ageless (h : cache.maxAge = none) (stored now : Nat) :
    cache.isExpired stored now = false := by
  rw [isExpired, h]

/-- What is too old stays too old. -/
theorem isExpired_mono {stored later : Nat} (hlater : now ≤ later)
    (h : cache.isExpired stored now = true) : cache.isExpired stored later = true := by
  rw [isExpired] at h ⊢
  split at h
  · cases h
  · exact decide_eq_true (Nat.lt_of_lt_of_le (of_decide_eq_true h) (Nat.sub_le_sub_right hlater _))

/-- An answer is found if it is kept and is not too old. -/
theorem fst_get_eq_some_iff : (cache.get now key).1 = some answer ↔ cache.enabled = true ∧
    ∃ stored, Entries.get? cache.entries key = some (stored, answer) ∧
      cache.isExpired stored now = false := by
  rw [get]
  split
  case isFalse hdisabled => exact iff_of_false nofun fun h => hdisabled h.1
  case isTrue henabled =>
    rw [and_iff_right henabled]
    split
    case h_1 hnone => exact iff_of_false nofun fun ⟨_, h, _⟩ => nomatch hnone.symm.trans h
    case h_2 stored kept hkept =>
      rw [hkept]
      split
      case isTrue hexpired =>
        refine iff_of_false nofun fun ⟨_, h, hfresh⟩ => ?_
        cases h
        exact Bool.false_ne_true (hfresh.symm.trans hexpired)
      case isFalse hfresh =>
        constructor
        · rintro ⟨⟩
          exact ⟨stored, rfl, eq_false_of_ne_true hfresh⟩
        · rintro ⟨_, ⟨⟩, -⟩
          rfl

theorem mem_of_get (h : (cache.get now key).1 = some answer) :
    ∃ stored, (key, (stored, answer)) ∈ cache.entries := by
  obtain ⟨-, stored, hkept, -⟩ := fst_get_eq_some_iff.1 h
  exact ⟨stored, Entries.mem_of_get? hkept⟩

theorem fst_get_of_disabled (h : cache.enabled = false) (now : Nat) (key : String) :
    (cache.get now key).1 = none := by
  rw [get, if_neg (by rw [h]; exact Bool.false_ne_true)]

/-- Without a greatest age a kept answer is found at any time. -/
theorem fst_get_of_ageless (henabled : cache.enabled = true) (h : cache.maxAge = none)
    {key : String} {stored : Nat} {answer : α}
    (hkept : Entries.get? cache.entries key = some (stored, answer)) (now : Nat) :
    (cache.get now key).1 = some answer :=
  fst_get_eq_some_iff.2 ⟨henabled, stored, hkept, isExpired_of_ageless h stored now⟩

/-- Looking for an answer leaves the cache as it is, or forgets an answer that is too old. -/
theorem snd_get_cases (cache : ResponseCache α) (now : Nat) (key : String) :
    (cache.get now key).2 = cache ∨
      ∃ stored answer, Entries.get? cache.entries key = some (stored, answer) ∧
        cache.isExpired stored now = true ∧
        (cache.get now key).2 = { cache with entries := Entries.erase cache.entries key } := by
  rw [get]
  split
  · split
    · exact .inl rfl
    · rename_i stored answer hkept
      split
      case isTrue hexpired => exact .inr ⟨stored, answer, hkept, hexpired, rfl⟩
      case isFalse => exact .inl rfl
  · exact .inl rfl

theorem enabled_get : (cache.get now key).2.enabled = cache.enabled := by
  obtain h | ⟨_, _, -, -, h⟩ := snd_get_cases cache now key <;> rw [h]

theorem maxAge_get : (cache.get now key).2.maxAge = cache.maxAge := by
  obtain h | ⟨_, _, -, -, h⟩ := snd_get_cases cache now key <;> rw [h]

/-- Looking for an answer may forget answers, and adds none. -/
theorem sublist_get : (cache.get now key).2.entries.Sublist cache.entries := by
  obtain h | ⟨_, _, -, -, h⟩ := snd_get_cases cache now key
  · simp only [h, List.Sublist.refl]
  · simp only [h, Entries.erase_sublist]

/-- Without a greatest age nothing is forgotten when it is asked for. -/
theorem snd_get_of_ageless (h : cache.maxAge = none) (now : Nat) (key : String) :
    (cache.get now key).2 = cache := by
  obtain hsame | ⟨stored, _, -, hexpired, -⟩ := snd_get_cases cache now key
  · exact hsame
  · exact nomatch (isExpired_of_ageless h stored now).symm.trans hexpired

/-- After an answer was looked for, what is kept under its key is what was found. -/
theorem get?_snd_get (henabled : cache.enabled = true)
    (hdistinct : (Entries.names cache.entries).Nodup) :
    (Entries.get? (cache.get now key).2.entries key).map Prod.snd = (cache.get now key).1 := by
  rw [get, if_pos henabled]
  split
  case h_1 hnone =>
    rw [hnone]
    rfl
  case h_2 stored answer hkept =>
    split
    case isTrue =>
      rw [Entries.get?_erase hdistinct, if_pos rfl]
      rfl
    case isFalse =>
      rw [hkept]
      rfl

theorem mem_put {entry : String × (Nat × α)}
    (h : entry ∈ (cache.put now key answer).entries) :
    entry = (key, (now, answer)) ∨ entry ∈ cache.entries := by
  rw [put] at h
  split at h
  · exact Entries.mem_set h
  · exact .inr h

theorem enabled_put : (cache.put now key answer).enabled = cache.enabled := by
  rw [put]
  split <;> rfl

theorem maxAge_put : (cache.put now key answer).maxAge = cache.maxAge := by
  rw [put]
  split <;> rfl

theorem get?_entries_put_of_ne {other : String} (h : key ≠ other) :
    Entries.get? (cache.put now key answer).entries other = Entries.get? cache.entries other := by
  rw [put]
  split
  · rw [Entries.get?_set, if_neg h]
  · rfl

end ResponseCache

/-! ### Histories -/

/-- A use of a cache. -/
inductive CacheUse (α : Type) where
  | put (key : String) (answer : α)
  | get (key : String)
  | clear

namespace CacheUse

/-- Whether a use looks for an answer. -/
def isGet : CacheUse α → Bool
  | get _ => true
  | _ => false

/-- Whether a use leaves the last answer put under a key as it was. -/
def Spares (key : String) : CacheUse α → Prop
  | put other _ => other ≠ key
  | get _ => True
  | clear => False

/-- The cache after a use at a time. -/
def run (now : Nat) (cache : ResponseCache α) : CacheUse α → ResponseCache α
  | put key answer => cache.put now key answer
  | get key => (cache.get now key).2
  | clear => cache.clear

/-- Whether an answer is the last one put under a key since the cache was last cleared, and was put
there at a time. -/
def LastPut (history : List (Nat × CacheUse α)) (key : String) (stored : Nat) (answer : α) : Prop :=
  ∃ earlier later, history = earlier ++ (stored, put key answer) :: later ∧
    ∀ use ∈ later, use.2.Spares key

variable {history : List (Nat × CacheUse α)} {key : String} {stored : Nat} {answer : α}

theorem not_lastPut_nil : ¬LastPut [] key stored answer := fun ⟨_, _, h, _⟩ =>
  List.append_ne_nil_of_right_ne_nil _ (List.cons_ne_nil _ _) h.symm

theorem lastPut_cons_iff {first : Nat × CacheUse α} : LastPut (first :: history) key stored answer ↔
    LastPut history key stored answer ∨
      first = (stored, put key answer) ∧ ∀ use ∈ history, use.2.Spares key := by
  constructor
  · rintro ⟨earlier, later, hhistory, hspares⟩
    cases earlier with
    | nil =>
      cases hhistory
      exact .inr ⟨rfl, hspares⟩
    | cons _ earlier =>
      cases hhistory
      exact .inl ⟨earlier, later, rfl, hspares⟩
  · rintro (⟨earlier, later, rfl, hspares⟩ | ⟨rfl, hspares⟩)
    · exact ⟨first :: earlier, later, rfl, hspares⟩
    · exact ⟨[], history, rfl, hspares⟩

/-- The last use is a put of the key, or it spares what was put there before. -/
theorem lastPut_concat_iff {last : Nat × CacheUse α} :
    LastPut (history ++ [last]) key stored answer ↔
      last = (stored, put key answer) ∨
        last.2.Spares key ∧ LastPut history key stored answer := by
  induction history with
  | nil => simp [lastPut_cons_iff, not_lastPut_nil]
  | cons first rest ih =>
    rw [List.cons_append, lastPut_cons_iff, lastPut_cons_iff, ih, List.forall_mem_append,
      List.forall_mem_singleton]
    grind

/-- Looking for answers puts none and clears nothing. -/
theorem lastPut_filter_iff : LastPut (history.filter fun use => !use.2.isGet) key stored answer ↔
    LastPut history key stored answer := by
  induction history with
  | nil => rfl
  | cons first rest ih =>
    obtain ⟨now, use⟩ := first
    have hspares : (∀ other ∈ rest.filter fun use => !use.2.isGet, other.2.Spares key) ↔
        ∀ other ∈ rest, other.2.Spares key := by
      refine ⟨fun h other hother => ?_, fun h other hother =>
        h other (List.mem_filter.1 hother).1⟩
      cases hget : other.2.isGet with
      | false => exact h other (List.mem_filter.2 ⟨hother, by rw [hget]; rfl⟩)
      | true =>
        obtain ⟨time, use⟩ := other
        cases use with
        | get => trivial
        | _ => cases hget
    cases use with
    | get other =>
      rw [List.filter_cons_of_neg (by simp [isGet]), ih, lastPut_cons_iff]
      exact (or_iff_left fun h => nomatch h.1).symm
    | _ =>
      rw [List.filter_cons_of_pos (by simp [isGet]), lastPut_cons_iff, lastPut_cons_iff, ih,
        hspares]

end CacheUse

/-! ### Runs -/

namespace ResponseCache

open CacheUse

/-- The cache after a history of uses. -/
def after (cache : ResponseCache α) (history : List (Nat × CacheUse α)) : ResponseCache α :=
  history.foldl (fun cache use => use.2.run use.1 cache) cache

theorem settings_run (cache : ResponseCache α) (now : Nat) (use : CacheUse α) :
    (use.run now cache).enabled = cache.enabled ∧ (use.run now cache).maxAge = cache.maxAge := by
  cases use with
  | put => exact ⟨enabled_put, maxAge_put⟩
  | get => exact ⟨enabled_get, maxAge_get⟩
  | clear => exact ⟨rfl, rfl⟩

/-- No use changes the settings. -/
theorem settings_after (cache : ResponseCache α) (history : List (Nat × CacheUse α)) :
    (cache.after history).enabled = cache.enabled ∧
      (cache.after history).maxAge = cache.maxAge := by
  induction history generalizing cache with
  | nil => exact ⟨rfl, rfl⟩
  | cons use rest ih =>
    obtain ⟨henabled, hage⟩ := ih (use.2.run use.1 cache)
    obtain ⟨hsame, hsameAge⟩ := settings_run cache use.1 use.2
    exact ⟨henabled.trans hsame, hage.trans hsameAge⟩

/-- What the entries of a cache that is not switched off have to do with the history of its uses:
an answer that is kept is the last one that was put there, and one that was put there and is not
kept is too old from now on. -/
structure Recalls (cache : ResponseCache α) (history : List (Nat × CacheUse α)) : Prop where
  enabled : cache.enabled = true
  distinct : (Entries.names cache.entries).Nodup
  lastPut_of_kept : ∀ {key stored answer}, Entries.get? cache.entries key = some (stored, answer) →
    LastPut history key stored answer
  kept_or_expired : ∀ {key stored answer}, LastPut history key stored answer →
    Entries.get? cache.entries key = some (stored, answer) ∨
      Entries.get? cache.entries key = none ∧
        ∀ now, (∀ use ∈ history, use.1 ≤ now) → cache.isExpired stored now = true

namespace Recalls

variable {cache : ResponseCache α} {history : List (Nat × CacheUse α)}

theorem of_empty (henabled : cache.enabled = true) (hempty : cache.entries = []) :
    cache.Recalls [] where
  enabled := henabled
  distinct := by
    rw [hempty]
    exact List.nodup_nil
  lastPut_of_kept h := by
    rw [hempty] at h
    cases h
  kept_or_expired h := (not_lastPut_nil h).elim

/-- What was too old after a history is too old after a longer one. -/
theorem isExpired_concat {stored now : Nat} {last : Nat × CacheUse α}
    (h : ∀ now, (∀ use ∈ history, use.1 ≤ now) → cache.isExpired stored now = true)
    (hclock : ∀ use ∈ history ++ [last], use.1 ≤ now) : cache.isExpired stored now = true :=
  h now fun use huse => hclock use (List.mem_append_left _ huse)

theorem put (h : cache.Recalls history) (now : Nat) (key : String) (answer : α) :
    (cache.put now key answer).Recalls (history ++ [(now, .put key answer)]) := by
  rw [ResponseCache.put, if_pos h.enabled]
  refine ⟨h.enabled, Entries.nodup_names_set h.distinct .., fun hkept => ?_, fun hlast => ?_⟩
  · rw [Entries.get?_set] at hkept
    split at hkept
    case isTrue heq =>
      cases hkept
      exact lastPut_concat_iff.2 (.inl (heq ▸ rfl))
    case isFalse hne => exact lastPut_concat_iff.2 (.inr ⟨hne, h.lastPut_of_kept hkept⟩)
  · rw [Entries.get?_set]
    obtain heq | ⟨hne, hold⟩ := lastPut_concat_iff.1 hlast
    · cases heq
      exact .inl (if_pos rfl)
    · rw [if_neg hne]
      exact (h.kept_or_expired hold).imp_right fun ⟨hnone, hexpired⟩ =>
        ⟨hnone, fun _ hclock => isExpired_concat hexpired hclock⟩

/-- An answer that is forgotten when it is looked for stays too old. -/
theorem get (h : cache.Recalls history) (now : Nat) (key : String) :
    (cache.get now key).2.Recalls (history ++ [(now, .get key)]) := by
  have hlast_iff : ∀ {other stored answer}, LastPut (history ++ [(now, .get key)]) other stored
      answer ↔ LastPut history other stored answer := fun {_ _ _} =>
    lastPut_concat_iff.trans ⟨fun hlast => hlast.elim nofun And.right, fun hlast =>
      .inr ⟨trivial, hlast⟩⟩
  obtain hsame | ⟨stored, answer, hkept, hexpired, herased⟩ := snd_get_cases cache now key
  · rw [hsame]
    refine ⟨h.enabled, h.distinct, fun hkept => hlast_iff.2 (h.lastPut_of_kept hkept),
      fun hlast => ?_⟩
    exact (h.kept_or_expired (hlast_iff.1 hlast)).imp_right fun ⟨hnone, hexpired⟩ =>
      ⟨hnone, fun _ hclock => isExpired_concat hexpired hclock⟩
  · rw [herased]
    refine ⟨h.enabled, Entries.nodup_names_erase h.distinct key, fun hother => ?_, fun hlast => ?_⟩
    · rw [Entries.get?_erase h.distinct] at hother
      split at hother
      · cases hother
      · exact hlast_iff.2 (h.lastPut_of_kept hother)
    · rw [Entries.get?_erase h.distinct]
      obtain hthere | ⟨hnone, hold⟩ := h.kept_or_expired (hlast_iff.1 hlast)
      · split
        case isTrue heq =>
          cases (heq ▸ hkept).symm.trans hthere
          refine .inr ⟨rfl, fun later hclock => isExpired_mono ?_ hexpired⟩
          exact hclock _ (List.mem_append_right _ (List.mem_singleton_self _))
        case isFalse => exact .inl hthere
      · refine .inr ⟨?_, fun _ hclock => isExpired_concat hold hclock⟩
        rw [hnone, ite_self]

theorem clear (h : cache.Recalls history) (now : Nat) :
    cache.clear.Recalls (history ++ [(now, .clear)]) where
  enabled := h.enabled
  distinct := List.nodup_nil
  lastPut_of_kept hkept := nomatch hkept
  kept_or_expired hlast := (lastPut_concat_iff.1 hlast).elim nofun fun h => h.1.elim

theorem run (h : cache.Recalls history) (now : Nat) (use : CacheUse α) :
    (use.run now cache).Recalls (history ++ [(now, use)]) := by
  cases use with
  | put key answer => exact h.put now key answer
  | get key => exact h.get now key
  | clear => exact h.clear now

theorem after (h : cache.Recalls history) (later : List (Nat × CacheUse α)) :
    (cache.after later).Recalls (history ++ later) := by
  induction later generalizing cache history with
  | nil => exact (List.append_nil history).symm ▸ h
  | cons use rest ih => exact List.append_cons history use rest ▸ ih (h.run use.1 use.2)

/-- What a cache finds after a history is the answer that was put there last, if it is not too old
by then. -/
theorem fst_get_eq_some_iff (h : cache.Recalls history) {now : Nat}
    (hclock : ∀ use ∈ history, use.1 ≤ now) {key : String} {answer : α} :
    (cache.get now key).1 = some answer ↔
      ∃ stored, LastPut history key stored answer ∧ cache.isExpired stored now = false := by
  rw [ResponseCache.fst_get_eq_some_iff, and_iff_right h.enabled]
  refine exists_congr fun stored => and_congr_left fun hfresh =>
    ⟨h.lastPut_of_kept, fun hlast => ?_⟩
  obtain hkept | ⟨-, hexpired⟩ := h.kept_or_expired hlast
  · exact hkept
  · exact nomatch (hexpired now hclock).symm.trans hfresh

end Recalls

/-- A cache that is switched off stays empty. -/
theorem entries_after_of_disabled {cache : ResponseCache α} (hdisabled : cache.enabled = false)
    (hempty : cache.entries = []) (history : List (Nat × CacheUse α)) :
    (cache.after history).entries = [] := by
  induction history generalizing cache with
  | nil => exact hempty
  | cons use rest ih =>
    obtain ⟨now, use⟩ := use
    refine ih ((settings_run cache now use).1.trans hdisabled) ?_
    cases use with
    | put key answer =>
      show (cache.put now key answer).entries = []
      rw [ResponseCache.put, if_neg (ne_true_of_eq_false hdisabled)]
      exact hempty
    | get key => exact List.sublist_nil.1 (hempty ▸ sublist_get)
    | clear => rfl

/-- After any uses of a cache that was empty, with a clock that did not go back, an answer is found
under a key exactly if the cache is not switched off, the answer is the last one that was put there
since the cache was last cleared, and it is not older than the greatest age. The answers that were
looked for in between do not matter, although an answer that is too old is forgotten when it is
looked for. -/
theorem finds_last_put_iff {cache : ResponseCache α} (hempty : cache.entries = [])
    {history : List (Nat × CacheUse α)} {now : Nat} (hclock : ∀ use ∈ history, use.1 ≤ now)
    (key : String) :
    (∀ answer, ((cache.after history).get now key).1 = some answer ↔
      cache.enabled = true ∧ ∃ stored, LastPut history key stored answer ∧
        ∀ greatest ∈ cache.maxAge, now - stored ≤ greatest) ∧
    ((cache.after history).get now key).1 =
      ((cache.after (history.filter fun use => !use.2.isGet)).get now key).1 ∧
    (Entries.get? ((cache.after history).get now key).2.entries key).map Prod.snd =
      ((cache.after history).get now key).1 := by
  cases henabled : cache.enabled with
  | false =>
    have hnone : ∀ uses : List (Nat × CacheUse α), ((cache.after uses).get now key).1 = none :=
      fun uses => fst_get_of_disabled ((settings_after cache uses).1.trans henabled) now key
    refine ⟨fun answer => ?_, (hnone _).trans (hnone _).symm, ?_⟩
    · exact iff_of_false (by rw [hnone]; nofun) fun h => nomatch h.1
    · have hentries : ((cache.after history).get now key).2.entries = [] :=
        List.sublist_nil.1 (entries_after_of_disabled henabled hempty history ▸ sublist_get)
      rw [hnone, hentries]
      rfl
  | true =>
    have hfound : ∀ uses : List (Nat × CacheUse α), (∀ use ∈ uses, use.1 ≤ now) → ∀ answer,
        ((cache.after uses).get now key).1 = some answer ↔
          ∃ stored, LastPut uses key stored answer ∧
            ∀ greatest ∈ cache.maxAge, now - stored ≤ greatest := by
      intro uses huses answer
      have hrecalls : (cache.after uses).Recalls uses :=
        (Recalls.of_empty henabled hempty).after uses
      rw [hrecalls.fst_get_eq_some_iff huses]
      simp only [isExpired_eq_false_iff, (settings_after cache uses).2]
    refine ⟨fun answer => (hfound history hclock answer).trans (and_iff_right rfl).symm, ?_, ?_⟩
    · refine Option.ext fun answer => ?_
      rw [hfound history hclock, hfound _ fun use huse => hclock use (List.mem_filter.1 huse).1]
      simp only [lastPut_filter_iff]
    · have hrecalls : (cache.after history).Recalls history :=
        (Recalls.of_empty henabled hempty).after history
      exact get?_snd_get hrecalls.enabled hrecalls.distinct

/-- An answer that is put again after it was forgotten, and again after the cache was cleared, is
found until it has the greatest age, and not after that. -/
theorem finds_last_put_at_greatest_age :
    let cache : ResponseCache Nat := { maxAge := some 10 }
    let history : List (Nat × CacheUse Nat) :=
      [(0, .put "k" 1), (11, .get "k"), (12, .put "k" 2), (13, .clear), (14, .put "k" 3),
        (16, .put "k" 4), (17, .put "j" 5)]
    (∀ use ∈ history, use.1 ≤ 26) ∧ ((cache.after history).get 26 "k").1 = some 4 ∧
      ((cache.after (history ++ [(26, .get "k")])).get 27 "k").1 = none := by
  intro cache history
  have hclock : ∀ use ∈ history, use.1 ≤ 26 := by simp [history]
  refine ⟨hclock, ((finds_last_put_iff rfl hclock "k").1 4).2 ⟨rfl, 16, ?_, ?_⟩, by decide +kernel⟩
  · exact ⟨history.take 5, [(17, .put "j" 5)], rfl, by simp [Spares]⟩
  · rintro _ ⟨⟩
    decide

end ResponseCache

end GridStore
