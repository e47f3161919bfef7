import CoinKeys.EncryptedKey.Search
import CoinKeys.Proofs.EncryptedKey.Passphrase
import Mathlib.Data.Multiset.AddSub
import Mathlib.Logic.Relation

/-!
# The search for a passphrase under every schedule

`findPassphrase` tries the candidates in one order. Workers that share a list take its candidates in
an order that nobody fixes, and several attempts are under way at a time.

**The state** (`Search`). The candidates that no worker has taken, those that are being tried, and
the outcome that ends the search, once there is one. Equal candidates are told apart by nothing, so
both collections are multisets.

**Steps** (`Search.Step`). A free worker takes any candidate, or an attempt that is under way is
over. A worker may take a candidate although another one has just ended the search, and which of
several outcomes stays is left open.

**The invariant** (`Search.Sound`). The outcome, if there is one, is that of a candidate; while
there is none, every candidate is waiting, being tried or bad.

**Termination.** A search that has not ended can go on, and every step leaves less work.

**The search of `findPassphrase`** is one of these: a single worker takes the candidates in the
order of the shares, which hold every candidate once.

Main result: `findPassphrase_of_workers`.
-/

namespace CoinKeys.EncryptedKey

variable {key : EncryptedKey} {candidates others : List String} {workers : Nat}

/-! ## One attempt -/

theorem attempt_eq_none_iff {candidate : String} :
    key.attempt candidate = none ↔ ∃ fault, key.decrypt candidate = .error fault := by
  rcases (onlyFault_decrypt key candidate).ok_or_error with ⟨unlocked, h⟩ | h
  · simp [attempt, h]
  · simp [attempt, h]

theorem attempt_eq_some_iff {candidate : String} {outcome : Except Error Match} :
    key.attempt candidate = some outcome ↔
      ∃ unlocked, key.decrypt candidate = .ok unlocked ∧ outcome = .ok ⟨candidate, unlocked⟩ := by
  rcases (onlyFault_decrypt key candidate).ok_or_error with ⟨unlocked, h⟩ | h
  · simp [attempt, h, eq_comm]
  · simp [attempt, h]

/-! ## The specification -/

/-- What a search among candidates has to find: nothing if no candidate unlocks the key and nothing
else, otherwise a candidate as it was given, with the private key that it unlocks. -/
structure Finds (key : EncryptedKey) (candidates : List String) (found : Option Match) : Prop where
  none_iff : found = none ↔ ∀ c ∈ candidates, ∃ fault, key.decrypt c = .error fault
  of_some : ∀ m, found = some m → m.passphrase ∈ candidates ∧ key.decrypt m.passphrase = .ok m.key

/-- At most one text among the candidates unlocks the key. -/
def AtMostOneUnlocks (key : EncryptedKey) (candidates : List String) : Prop :=
  ∀ a ∈ candidates, ∀ b ∈ candidates, ∀ k l, key.decrypt a = .ok k → key.decrypt b = .ok l → a = b

theorem Finds.of_perm {found : Option Match} (h : key.Finds others found)
    (hperm : candidates.Perm others) : key.Finds candidates found := by
  obtain ⟨hnone, hsome⟩ := h
  simp only [← hperm.mem_iff] at hnone hsome
  exact ⟨hnone, hsome⟩

/-- Only one answer is right if at most one candidate unlocks the key. -/
theorem Finds.unique {a b : Option Match} (ha : key.Finds candidates a)
    (hb : key.Finds candidates b) (hone : key.AtMostOneUnlocks candidates) : a = b := by
  cases a with
  | none => exact (hb.none_iff.mpr (ha.none_iff.mp rfl)).symm
  | some m =>
    cases b with
    | none => exact ha.none_iff.mpr (hb.none_iff.mp rfl)
    | some n =>
      obtain ⟨hm, hk⟩ := ha.of_some m rfl
      obtain ⟨hn, hl⟩ := hb.of_some n rfl
      obtain ⟨text, k⟩ := m
      obtain ⟨text', l⟩ := n
      obtain rfl : text = text' := hone text hm text' hn k l hk hl
      rw [hl] at hk
      obtain rfl : l = k := Except.ok.inj hk
      rfl

/-! ## Workers that share the candidates -/

/-- A search that is under way. -/
structure Search where
  /-- The candidates that no worker has taken. -/
  waiting : Multiset String
  /-- The candidates that are being tried. -/
  busy : Multiset String
  /-- The outcome that ends the search, once there is one. -/
  found : Option (Except Error Match)

namespace Search

/-- What can happen next in a search. -/
inductive Step (key : EncryptedKey) (workers : Nat) : Search → Search → Prop
  /-- A free worker takes a candidate. -/
  | take {waiting busy : Multiset String} {found : Option (Except Error Match)} (c : String)
    (hfree : busy.card < workers) :
    Step key workers ⟨c ::ₘ waiting, busy, found⟩ ⟨waiting, c ::ₘ busy, found⟩
  /-- A candidate was bad. -/
  | miss {waiting busy : Multiset String} {found : Option (Except Error Match)} {c : String}
    (h : key.attempt c = none) :
    Step key workers ⟨waiting, c ::ₘ busy, found⟩ ⟨waiting, busy, found⟩
  /-- An attempt ends the search. -/
  | hit {waiting busy : Multiset String} {found : Option (Except Error Match)} {c : String}
    {outcome : Except Error Match} (h : key.attempt c = some outcome) :
    Step key workers ⟨waiting, c ::ₘ busy, found⟩ ⟨waiting, busy, some outcome⟩
  /-- An attempt would end the search if another one had not done so. -/
  | late {waiting busy : Multiset String} {c : String} {outcome earlier : Except Error Match}
    (h : key.attempt c = some outcome) :
    Step key workers ⟨waiting, c ::ₘ busy, some earlier⟩ ⟨waiting, busy, some earlier⟩

/-- The search before any worker takes a candidate. -/
def start (candidates : List String) : Search :=
  ⟨candidates, 0, none⟩

/-- The search goes from one state to another. -/
abbrev Run (key : EncryptedKey) (workers : Nat) : Search → Search → Prop :=
  Relation.ReflTransGen (Step key workers)

/-- Nothing is being tried, and there is an outcome or nothing to try. -/
def Ended (s : Search) : Prop :=
  s.busy = 0 ∧ (s.waiting = 0 ∨ s.found.isSome)

/-- The answer that an outcome makes. -/
def answer : Option (Except Error Match) → Except Error (Option Match)
  | some (.ok found) => .ok (some found)
  | some (.error fault) => .error fault
  | none => .ok none

/-! ## The invariant -/

/-- What holds of a search at any time. -/
structure Sound (key : EncryptedKey) (candidates : List String) (s : Search) : Prop where
  waiting : ∀ c ∈ s.waiting, c ∈ candidates
  busy : ∀ c ∈ s.busy, c ∈ candidates
  found : ∀ outcome, s.found = some outcome → ∃ c ∈ candidates, key.attempt c = some outcome
  missed : s.found = none → ∀ c ∈ candidates, c ∈ s.waiting ∨ c ∈ s.busy ∨ key.attempt c = none

theorem sound_start (key : EncryptedKey) (candidates : List String) :
    Sound key candidates (start candidates) := by
  refine ⟨fun c hc => hc, fun c hc => ?_, fun outcome h => ?_, fun _ c hc => .inl hc⟩
  · exact absurd hc (Multiset.notMem_zero c)
  · cases h

theorem Sound.step {s s' : Search} (hs : Sound key candidates s) (h : Step key workers s s') :
    Sound key candidates s' := by
  obtain ⟨hwaiting, hbusy, hfound, hmissed⟩ := hs
  cases h with
  | take c hfree =>
    rw [Multiset.forall_mem_cons] at hwaiting
    refine ⟨hwaiting.2, Multiset.forall_mem_cons.mpr ⟨hwaiting.1, hbusy⟩, hfound, ?_⟩
    intro hnone d hd
    rcases hmissed hnone d hd with h | h | h
    · -- The candidate that was taken is the only one that waits no more.
      rcases Multiset.mem_cons.mp h with rfl | h
      · exact .inr (.inl (Multiset.mem_cons_self d _))
      · exact .inl h
    · exact .inr (.inl (Multiset.mem_cons_of_mem h))
    · exact .inr (.inr h)
  | miss hmiss =>
    rw [Multiset.forall_mem_cons] at hbusy
    refine ⟨hwaiting, hbusy.2, hfound, ?_⟩
    intro hnone d hd
    rcases hmissed hnone d hd with h | h | h
    · exact .inl h
    · rcases Multiset.mem_cons.mp h with rfl | h
      · exact .inr (.inr hmiss)
      · exact .inr (.inl h)
    · exact .inr (.inr h)
  | hit hhit =>
    rw [Multiset.forall_mem_cons] at hbusy
    refine ⟨hwaiting, hbusy.2, ?_, fun hnone => by cases hnone⟩
    intro outcome houtcome
    obtain rfl := Option.some.inj houtcome
    exact ⟨_, hbusy.1, hhit⟩
  | late hlate =>
    rw [Multiset.forall_mem_cons] at hbusy
    exact ⟨hwaiting, hbusy.2, hfound, fun hnone => by cases hnone⟩

theorem sound_of_run {s : Search} (h : Run key workers (start candidates) s) :
    Sound key candidates s := by
  induction h with
  | refl => exact sound_start key candidates
  | tail _ hstep ih => exact ih.step hstep

/-- **A search that has ended has found what it had to.** -/
theorem Sound.finds {s : Search} (hs : Sound key candidates s) (hend : s.Ended) :
    ∃ found, answer s.found = .ok found ∧ key.Finds candidates found := by
  obtain ⟨hbusy, hrest⟩ := hend
  cases hfound : s.found with
  | none =>
    have hwaiting : s.waiting = 0 := by simpa [hfound] using hrest
    refine ⟨none, rfl, iff_of_true rfl fun c hc => ?_, fun m hm => ?_⟩
    · have hmissed := hs.missed hfound c hc
      simpa [hwaiting, hbusy, attempt_eq_none_iff] using hmissed
    · cases hm
  | some outcome =>
    obtain ⟨c, hc, hattempt⟩ := hs.found outcome hfound
    obtain ⟨unlocked, hunlock, rfl⟩ := attempt_eq_some_iff.mp hattempt
    refine ⟨some ⟨c, unlocked⟩, rfl, iff_of_false nofun fun h => ?_, fun m hm => ?_⟩
    · obtain ⟨fault, hfault⟩ := h c hc
      rw [hunlock] at hfault
      cases hfault
    · obtain rfl := Option.some.inj hm
      exact ⟨hc, hunlock⟩

/-! ## Termination -/

theorem exists_step {s : Search} (hworkers : 0 < workers) (hend : ¬ s.Ended) :
    ∃ s', Step key workers s s' := by
  obtain ⟨waiting, busy, found⟩ := s
  by_cases hbusy : busy = 0
  · subst hbusy
    have hwaiting : waiting ≠ 0 := by
      rintro rfl
      exact hend ⟨rfl, .inl rfl⟩
    obtain ⟨c, hc⟩ := Multiset.exists_mem_of_ne_zero hwaiting
    obtain ⟨rest, rfl⟩ := Multiset.exists_cons_of_mem hc
    exact ⟨_, .take c (by simpa using hworkers)⟩
  · obtain ⟨c, hc⟩ := Multiset.exists_mem_of_ne_zero hbusy
    obtain ⟨rest, rfl⟩ := Multiset.exists_cons_of_mem hc
    cases hattempt : key.attempt c with
    | none => exact ⟨_, .miss hattempt⟩
    | some outcome => exact ⟨_, .hit hattempt⟩

/-- The steps that a search still needs: two for a candidate that waits, one for one that is being
tried. -/
def work (s : Search) : Nat :=
  2 * s.waiting.card + s.busy.card

theorem Step.work_lt {s s' : Search} (h : Step key workers s s') : s'.work < s.work := by
  cases h <;> simp only [work, Multiset.card_cons] <;> omega

theorem wellFounded_step (key : EncryptedKey) (workers : Nat) :
    WellFounded fun s' s => Step key workers s s' :=
  Subrelation.wf Step.work_lt (measure work).wf

/-! ## One worker after another -/

/-- The candidates may be tried in any order. -/
theorem exists_run_of_order (key : EncryptedKey) (hworkers : 0 < workers) (order : List String) :
    ∃ last, Run key workers (start order) last ∧ last.Ended ∧
      last.found = order.findSome? key.attempt := by
  induction order with
  | nil => exact ⟨_, .refl, ⟨rfl, .inl rfl⟩, rfl⟩
  | cons c rest ih =>
    -- One worker is enough, if it is done with a candidate before it takes the next one.
    have htake : Step key workers ⟨c ::ₘ rest, 0, none⟩ ⟨rest, c ::ₘ 0, none⟩ := .take c hworkers
    rw [List.findSome?_cons]
    cases hattempt : key.attempt c with
    | none =>
      obtain ⟨last, hrun, hlast⟩ := ih
      exact ⟨last, .head htake (.head (.miss hattempt) hrun), hlast⟩
    | some outcome =>
      exact ⟨⟨rest, 0, some outcome⟩, .head htake (.single (.hit hattempt)), ⟨rfl, .inr rfl⟩, rfl⟩

end Search

/-- Workers that share the candidates may give this answer. -/
def Answers (key : EncryptedKey) (candidates : List String) (workers : Nat)
    (result : Except Error (Option Match)) : Prop :=
  ∃ last, Search.Run key workers (.start candidates) last ∧ last.Ended ∧
    Search.answer last.found = result

theorem Answers.finds {result : Except Error (Option Match)}
    (h : key.Answers candidates workers result) :
    ∃ found, result = .ok found ∧ key.Finds candidates found := by
  obtain ⟨last, hrun, hend, rfl⟩ := h
  exact (Search.sound_of_run hrun).finds hend

/-! ## The shares -/

section Shares

variable {α : Type}

theorem flatMap_filter_perm (f : α → Nat) (l : List α) (n : Nat) :
    ((List.range n).flatMap fun j => l.filter (f · == j)).Perm (l.filter (f · < n)) := by
  induction n with
  | zero => simp
  | succ n ih =>
    -- What is below the new bound is below the old one, or it is the old one.
    have hbelow : (l.filter (f · < n + 1)).filter (f · < n) = l.filter (f · < n) := by
      rw [List.filter_filter]
      refine List.filter_congr fun x _ => ?_
      by_cases hx : f x < n
      · simp [hx, Nat.lt_succ_of_lt hx]
      · simp [hx]
    have hlast : (l.filter (f · < n + 1)).filter (fun x => !decide (f x < n)) =
        l.filter (f · == n) := by
      rw [List.filter_filter]
      refine List.filter_congr fun x _ => ?_
      rw [Bool.eq_iff_iff]
      simp only [Bool.and_eq_true, Bool.not_eq_true', decide_eq_false_iff_not, decide_eq_true_eq,
        beq_iff_eq]
      omega
    have hsplit := List.filter_append_perm (f · < n) (l.filter (f · < n + 1))
    rw [hbelow, hlast] at hsplit
    rw [List.range_succ, List.flatMap_append, List.flatMap_singleton]
    exact (ih.append_right _).trans hsplit

/-- **The shares hold every candidate once.** -/
theorem flatten_shares_perm {workers : Nat} (hworkers : 0 < workers) (candidates : List α) :
    (shares workers candidates).flatten.Perm candidates := by
  have hall : candidates.zipIdx.filter (fun c => c.2 % workers < workers) = candidates.zipIdx :=
    List.filter_eq_self.mpr fun c _ => decide_eq_true (Nat.mod_lt _ hworkers)
  have hflat : (shares workers candidates).flatten =
      ((List.range workers).flatMap fun worker =>
        candidates.zipIdx.filter fun c => c.2 % workers == worker).map Prod.fst := by
    rw [shares, List.map_flatMap, List.flatMap_def]
    rfl
  have hperm := flatMap_filter_perm (fun c : α × Nat => c.2 % workers) candidates.zipIdx workers
  rw [hall] at hperm
  rw [hflat]
  refine (hperm.map Prod.fst).trans ?_
  rw [List.zipIdx_map_fst]

end Shares

/-! ## The search -/

theorem findPassphrase_answers (key : EncryptedKey) (candidates : List String)
    (hworkers : 0 < workers) :
    key.Answers candidates workers (key.findPassphrase candidates workers) := by
  have hperm : (shares (min workers candidates.length) candidates).flatten.Perm candidates := by
    cases candidates with
    | nil => simp [shares]
    | cons c rest => exact flatten_shares_perm (by simp [hworkers]) (c :: rest)
  obtain ⟨last, hrun, hend, hfound⟩ := Search.exists_run_of_order key hworkers
    (shares (min workers candidates.length) candidates).flatten
  -- What waits is a multiset, so the order of the shares is forgotten at once.
  have hstart : Search.start (shares (min workers candidates.length) candidates).flatten =
      .start candidates := by
    rw [Search.start, Multiset.coe_eq_coe.mpr hperm]
    rfl
  rw [hstart] at hrun
  refine ⟨last, hrun, hend, ?_⟩
  rw [hfound, findPassphrase, if_neg hworkers.ne']
  rfl

/-- **However its workers are scheduled, a search finds what there is to find.** -/
theorem findPassphrase_of_workers (key : EncryptedKey) (candidates : List String)
    (hworkers : 0 < workers) :
    (∃ found, key.findPassphrase candidates workers = .ok found ∧ key.Finds candidates found) ∧
      key.Answers candidates workers (key.findPassphrase candidates workers) ∧
      (∀ result, key.Answers candidates workers result →
        ∃ found, result = .ok found ∧ key.Finds candidates found) ∧
      (∀ s : Search, ¬ s.Ended → ∃ s', Search.Step key workers s s') ∧
      (WellFounded fun s' s => Search.Step key workers s s') ∧
      (key.AtMostOneUnlocks candidates →
        ∀ others otherWorkers, candidates.Perm others → 0 < otherWorkers →
          key.findPassphrase others otherWorkers = key.findPassphrase candidates workers ∧
          ∀ result, key.Answers others otherWorkers result →
            result = key.findPassphrase candidates workers) := by
  have hanswer := findPassphrase_answers key candidates hworkers
  obtain ⟨found, hresult, hfinds⟩ := hanswer.finds
  refine ⟨⟨found, hresult, hfinds⟩, hanswer, fun result h => h.finds,
    fun s hend => Search.exists_step hworkers hend, Search.wellFounded_step key workers, ?_⟩
  intro hone others otherWorkers hperm hother
  have hsame : ∀ result, key.Answers others otherWorkers result →
      result = key.findPassphrase candidates workers := by
    intro result h
    obtain ⟨found', rfl, hfinds'⟩ := h.finds
    rw [hresult, (hfinds'.of_perm hperm).unique hfinds hone]
  exact ⟨hsame _ (findPassphrase_answers key others hother), hsame⟩

/-- Four workers and one find the same passphrase of the secret one. -/
theorem findPassphrase_of_workers_four : ∃ (locked : EncryptedKey) (key : PrivateKey),
    encrypt key "hunter2" .mainnet = .ok locked ∧
      0 < 4 ∧ locked.AtMostOneUnlocks ["hunter2", "hunter2"] ∧
      locked.findPassphrase ["hunter2", "hunter2"] 4 = .ok (some ⟨"hunter2", key⟩) ∧
      locked.findPassphrase ["hunter2", "hunter2"] 1 = .ok (some ⟨"hunter2", key⟩) := by
  obtain ⟨locked, hlocked⟩ :=
    exists_encrypt_eq_ok ⟨⟨1, by decide, by decide⟩, true⟩ "hunter2" .mainnet
  obtain ⟨hnetwork, hform, -, -⟩ := encrypt_eq_ok_iff.mp hlocked
  have hmode : locked.form.mode = .direct := by rw [hform]
  have hunlock : locked.decrypt "hunter2" = .ok ⟨⟨1, by decide, by decide⟩, true⟩ := by
    rw [decrypt_eq_ok_iff_encrypt hmode, hnetwork]
    exact hlocked
  have hone : locked.AtMostOneUnlocks ["hunter2", "hunter2"] := by
    simp [AtMostOneUnlocks]
  obtain ⟨⟨found, hresult, hfinds⟩, -, -, -, -, hsame⟩ :=
    findPassphrase_of_workers locked ["hunter2", "hunter2"] (by decide : 0 < 4)
  have hfound : found = some ⟨"hunter2", ⟨1, by decide, by decide⟩, true⟩ := by
    cases found with
    | none =>
      obtain ⟨fault, hfault⟩ := hfinds.none_iff.mp rfl "hunter2" List.mem_cons_self
      rw [hunlock] at hfault
      cases hfault
    | some m =>
      obtain ⟨hmem, hkey⟩ := hfinds.of_some m rfl
      obtain ⟨text, key⟩ := m
      obtain rfl : text = "hunter2" := by simpa using hmem
      rw [hunlock] at hkey
      rw [Except.ok.inj hkey]
  rw [hfound] at hresult
  exact ⟨locked, _, hlocked, by decide, hone, hresult,
    (hsame hone _ 1 (.refl _) (by decide)).1.trans hresult⟩

end CoinKeys.EncryptedKey
