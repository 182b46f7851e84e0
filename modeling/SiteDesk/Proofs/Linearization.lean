import Mathlib.Data.List.Dedup
import SiteDesk.Proofs.SiteAnswers

/-!
Plans of commands that run interleaved over one site, and an order in which they could have run in
turn. A command takes effect when a look-up finds nothing, or else with its last call. One case is
different: who deletes a page also decides what comes of those who have found it and are still to
publish or delete it. For them the page is gone from then on, even if its path is taken again before
they learn of it, so they are put right after the one who deletes it.
-/
namespace SiteDesk.Command

open Plan

section Alone

variable {id : String} {now : Timestamp} {site later : Site} {plan rest : Plan Outcome}

theorem Plan.Settles.run {outcome : Outcome} (h : plan.Settles outcome) (site : Site) :
    plan.run (Site.answer id now) site = (outcome, site) := by
  induction plan generalizing site with
  | done result => exact congrArg (·, site) h
  | call c next ih =>
    obtain ⟨hc, hs⟩ := h
    cases c <;> first
      | exact hc.elim
      | exact ih _ (hs _) site

/-- A plan that has only asked so far: it would come to the same point again, now and with more
components. -/
structure Asking (id : String) (now : Timestamp) (site : Site) (plan rest : Plan Outcome) :
    Prop where
  careful : rest.Careful Set.univ
  again : ∀ later : Site, site.components.Within later.components →
    plan.run (Site.answer id now) later = rest.run (Site.answer id now) later

/-- A plan that has found a page and is to publish or delete it. It would come to the same point
again as long as the page is kept, and to nothing once it is gone. -/
structure Holding (id : String) (now : Timestamp) (site : Site) (plan rest : Plan Outcome)
    (page : Page) : Prop where
  stored : site.pages.Keeps page
  pursues : rest.Pursues page.id
  again : ∀ later : Site, site.components.Within later.components → later.pages.Mirrored →
    later.pages.Keeps page →
      plan.run (Site.answer id now) later = rest.run (Site.answer id now) later
  gone : ∀ later : Site, site.components.Within later.components → later.pages.Lacks page →
    plan.run (Site.answer id now) later = (pageMissing, later)

def Waiting (id : String) (now : Timestamp) (site : Site) (plan rest : Plan Outcome) : Prop :=
  Asking id now site plan rest ∨ ∃ page, Holding id now site plan rest page

theorem asking_start (h : plan.Careful Set.univ) : Asking id now site plan plan :=
  ⟨h, fun _ _ => rfl⟩

/-- A page that was found is found again as long as it is kept, under its id and at its path. -/
theorem find_of_keeps {pages grown : PageStore} {target : PageTarget} {page : Page}
    (hm : pages.Mirrored) (hf : pages.find target = some page) (hg : grown.Mirrored)
    (kept : grown.Keeps page) :
    ∃ other, grown.find target = some other ∧ other.id = page.id ∧ other.path = page.path := by
  obtain ⟨other, ho, hp⟩ := kept
  have hid : other.id = page.id := (hg.of_page page.id other ho).1
  cases target with
  | id key =>
    have hk : page.id = key := (hm.of_page key page hf).1
    exact ⟨other, hk ▸ ho, hid, hp⟩
  | path path =>
    obtain ⟨-, -, hk⟩ := hm.findByPath_iff.1 hf
    exact ⟨other, hg.findByPath_iff.2 ⟨page.id, ho, hp.trans hk⟩, hid, hp⟩

theorem find_of_lacks {pages grown : PageStore} {target : PageTarget} {page : Page}
    (hm : pages.Mirrored) (hf : pages.find target = some page) (lacks : grown.Lacks page) :
    grown.find target = none := by
  obtain ⟨hi, hp⟩ := lacks
  cases target with
  | id key =>
    have hk : page.id = key := (hm.of_page key page hf).1
    rw [hk] at hi
    exact hi
  | path path =>
    obtain ⟨-, -, hk⟩ := hm.findByPath_iff.1 hf
    rw [hk] at hp
    exact hp

theorem keeps_of_find {pages : PageStore} {target : PageTarget} {page : Page}
    (hm : pages.Mirrored) (hf : pages.find target = some page) : pages.Keeps page := by
  obtain ⟨id, hs⟩ := PageStore.findById_of_find hf
  have hi : page.id = id := (hm.of_page id page hs).1
  exact ⟨page, hi ▸ hs, rfl⟩

/-- Whoever looks a page up holds it if it is there, and fails if it is not. -/
theorem Waiting.of_look (hm : site.pages.Mirrored) (target : PageTarget)
    {next : Except StoreError (Option Page) → Plan Outcome} (follows : FollowsUp next)
    (again : ∀ later : Site, site.components.Within later.components →
      plan.run (Site.answer id now) later =
        (next (.ok (later.pages.find target))).run (Site.answer id now) later) :
    Waiting id now site plan (next (.ok (site.pages.find target))) ∨
      plan.run (Site.answer id now) site = (pageMissing, site) ∧
        (next (.ok (site.pages.find target))).Settles pageMissing := by
  cases hf : site.pages.find target with
  | none =>
    right
    refine ⟨?_, follows.absent⟩
    rw [again site fun _ _ h => h, hf]
    exact follows.absent.run site
  | some page =>
    left
    right
    refine ⟨page, keeps_of_find hm hf, follows.present page, ?_, ?_⟩
    · intro later hw hl kept
      obtain ⟨other, ho, hi, hp⟩ := find_of_keeps hm hf hl kept
      rw [again later hw, ho, follows.same other page hi hp]
    · intro later hw lacks
      rw [again later hw, find_of_lacks hm hf lacks]
      exact follows.absent.run later

/-- A call of a plan that has only asked either changes nothing and leaves it waiting, or it is the
one with which the plan takes effect. -/
theorem Asking.call (hm : site.pages.Mirrored) {c : Call} {next : c.Reply → Plan Outcome}
    (h : Asking id now site plan (.call c next)) :
    (site.answer id now c).2 = site ∧ Waiting id now site plan (next (site.answer id now c).1) ∨
      ∃ outcome, plan.run (Site.answer id now) site = (outcome, (site.answer id now c).2) ∧
        (next (site.answer id now c).1).Settles outcome := by
  obtain ⟨careful, again⟩ := h
  have now_run := again site fun _ _ h => h
  cases careful with
  | last isLast settles =>
    right
    obtain ⟨outcome, hs⟩ := settles (site.answer id now c).1
    refine ⟨outcome, ?_, hs⟩
    rw [now_run, run_call, hs.run]
  | @findComponent type next absent present =>
    cases hf : site.components.find type with
    | none =>
      right
      obtain ⟨outcome, hs⟩ := absent
      have hr : (site.answer id now (.findComponent type)).1 = .ok none := congrArg Except.ok hf
      rw [hr]
      refine ⟨outcome, ?_, hs⟩
      rw [now_run, run_call, hr, hs.run]
    | some component =>
      left
      have hr : (site.answer id now (.findComponent type)).1 = .ok (some component) :=
        congrArg Except.ok hf
      rw [hr]
      refine ⟨rfl, Or.inl ⟨present component fun _ _ => trivial, ?_⟩⟩
      intro later hw
      have hl : (later.answer id now (.findComponent type)).1 = .ok (some component) :=
        congrArg Except.ok (hw type component hf)
      rw [again later hw, run_call, hl]
      rfl
  | compileSchema known compiled => exact Or.inl ⟨rfl, Or.inl ⟨compiled _, again⟩⟩
  | @findPageById key next follows =>
    rcases Waiting.of_look hm (.id key) follows again with hw | ⟨hr, hs⟩
    · exact Or.inl ⟨rfl, hw⟩
    · exact Or.inr ⟨pageMissing, hr, hs⟩
  | @findPageByPath path next follows =>
    rcases Waiting.of_look hm (.path path) follows again with hw | ⟨hr, hs⟩
    · exact Or.inl ⟨rfl, hw⟩
    · exact Or.inr ⟨pageMissing, hr, hs⟩

theorem Holding.call (hm : site.pages.Mirrored) {c : Call} {next : c.Reply → Plan Outcome}
    {page : Page} (h : Holding id now site plan (.call c next) page) :
    ∃ outcome, plan.run (Site.answer id now) site = (outcome, (site.answer id now c).2) ∧
      (next (site.answer id now c).1).Settles outcome := by
  have settles : ∀ reply, ∃ outcome, (next reply).Settles outcome := by
    cases h.pursues with
    | publish settles missing => exact settles
    | delete settles missing => exact settles
  obtain ⟨outcome, hs⟩ := settles (site.answer id now c).1
  refine ⟨outcome, ?_, hs⟩
  rw [h.again site (fun _ _ h => h) hm h.stored, run_call, hs.run]

theorem Waiting.call (hm : site.pages.Mirrored) {c : Call} {next : c.Reply → Plan Outcome}
    (h : Waiting id now site plan (.call c next)) :
    (site.answer id now c).2 = site ∧ Waiting id now site plan (next (site.answer id now c).1) ∨
      ∃ outcome, plan.run (Site.answer id now) site = (outcome, (site.answer id now c).2) ∧
        (next (site.answer id now c).1).Settles outcome := by
  rcases h with h | ⟨page, h⟩
  · exact h.call hm
  · exact Or.inr (h.call hm)

theorem Asking.persists (hw : site.components.Within later.components)
    (h : Asking id now site plan rest) : Asking id now later plan rest :=
  ⟨h.careful, fun further hf => h.again further fun _ _ hc => hf _ _ (hw _ _ hc)⟩

theorem Holding.persists {page : Page} (hw : site.components.Within later.components)
    (kept : later.pages.Keeps page) (h : Holding id now site plan rest page) :
    Holding id now later plan rest page :=
  ⟨kept, h.pursues, fun further hf => h.again further fun _ _ hc => hf _ _ (hw _ _ hc),
    fun further hf => h.gone further fun _ _ hc => hf _ _ (hw _ _ hc)⟩

end Alone

section Together

variable {ι : Type} {ids : ι → String} {times : ι → Timestamp}
  {plan progress : ι → Plan Outcome} {site : Site} {past schedule : List ι}
  {served : ι → Option Outcome} {i : ι} {outcome : Outcome}

/-- The outcome of a plan that has taken effect: only notes are left, or it holds a page that is
gone and will not come back under its id. -/
def Bound (ids : ι → String) (served : ι → Option Outcome) (site : Site) (outcome : Outcome)
    (rest : Plan Outcome) : Prop :=
  rest.Settles outcome ∨
    outcome = pageMissing ∧ ∃ id, rest.Pursues id ∧ site.pages.findById id = none ∧
      ∀ j, served j = none → ids j ≠ id

/-- Plans of which some have made calls and some of these have taken effect, in which case they are
served with their outcome. -/
structure Underway (ids : ι → String) (times : ι → Timestamp) (plan : ι → Plan Outcome)
    (past : List ι) (served : ι → Option Outcome) (progress : ι → Plan Outcome) (site : Site) :
    Prop where
  mirrored : site.pages.Mirrored
  fresh : ∀ i, served i = none → site.pages.findById (ids i) = none
  waiting : ∀ i, served i = none → Asking (ids i) (times i) site (plan i) (progress i) ∨
    i ∈ past ∧ ∃ page, Holding (ids i) (times i) site (plan i) (progress i) page
  bound : ∀ i outcome, served i = some outcome → Bound ids served site outcome (progress i)

/-- A call of a plan that has taken effect changes nothing. -/
theorem Bound.call {c : Call} {next : c.Reply → Plan Outcome}
    (h : Bound ids served site outcome (.call c next)) (id : String) (now : Timestamp) :
    (site.answer id now c).2 = site ∧ (next (site.answer id now c).1).Settles outcome := by
  rcases h with ⟨hc, hs⟩ | ⟨rfl, key, pursues, free, -⟩
  · cases c <;> first
      | exact hc.elim
      | exact ⟨rfl, hs _⟩
  · cases pursues with
    | @publish actor next settles missing =>
      have ha : site.answer id now (.publishPage key actor) = (.error PageStore.missing, site) := by
        simp [Site.answer, Desk.answer, PageStore.publish, free]
      rw [ha]
      exact ⟨rfl, missing⟩
    | @delete next settles missing =>
      have ha : site.answer id now (.deletePage key) = (.error PageStore.missing, site) := by
        simp [Site.answer, Desk.answer, PageStore.delete, free]
      rw [ha]
      exact ⟨rfl, missing⟩

theorem Underway.waits (h : Underway ids times plan past served progress site)
    (hi : served i = none) : Waiting (ids i) (times i) site (plan i) (progress i) :=
  (h.waiting i hi).imp_right And.right

theorem Underway.not_done (h : Underway ids times plan past served progress site)
    (hi : served i = none) : progress i ≠ .done outcome := by
  intro hd
  rcases hd ▸ h.waits hi with asking | ⟨page, held⟩
  · cases asking.careful
  · cases held.pursues

/-- A plan that holds a page which is gone on the site that another plan leaves. -/
structure Loses (ids : ι → String) (times : ι → Timestamp) (plan : ι → Plan Outcome)
    (past : List ι) (served : ι → Option Outcome) (progress : ι → Plan Outcome)
    (site later : Site) (i j : ι) : Prop where
  other : j ≠ i
  unserved : served j = none
  started : j ∈ past
  holds : ∃ page, Holding (ids j) (times j) site (plan j) (progress j) page ∧
    later.pages.Lacks page

theorem Loses.run {later : Site} {j : ι}
    (h : Loses ids times plan past served progress site later i j)
    (within : site.components.Within later.components) :
    (plan j).run (Site.answer (ids j) (times j)) later = (pageMissing, later) := by
  obtain ⟨page, held, lacks⟩ := h.holds
  exact held.gone later within lacks

theorem exists_losers [DecidableEq ι] (remaining : ∀ j, served j = none → j ∈ schedule)
    (later : Site) (i : ι) :
    ∃ losers : List ι, losers.Nodup ∧
      ∀ j, j ∈ losers ↔ Loses ids times plan past served progress site later i j := by
  classical
  refine ⟨schedule.dedup.filter fun j => Loses ids times plan past served progress site later i j,
    (List.nodup_dedup _).filter _, fun j => ?_⟩
  simp only [List.mem_filter, List.mem_dedup, decide_eq_true_eq, and_iff_right_iff_imp]
  exact fun lost => remaining j lost.unserved

theorem Underway.waiting_after (h : Underway ids times plan past served progress site)
    (hi : served i = none) {c : Call} {j : ι} (hj : served j = none) (hne : j ≠ i)
    (kept : ¬ Loses ids times plan past served progress site
      (site.answer (ids i) (times i) c).2 i j) :
    Asking (ids j) (times j) (site.answer (ids i) (times i) c).2 (plan j) (progress j) ∨
      j ∈ past ∧ ∃ page,
        Holding (ids j) (times j) (site.answer (ids i) (times i) c).2 (plan j) (progress j)
          page := by
  rcases h.waiting j hj with asking | ⟨started, page, held⟩
  · exact Or.inl (asking.persists Site.within_answer)
  · rcases Site.kept_answer held.stored (h.fresh i hi) with keeps | lacks
    · exact Or.inr ⟨started, page, held.persists Site.within_answer keeps⟩
    · exact absurd ⟨hne, hj, started, page, held, lacks⟩ kept

/-- An order of the plans that have not taken effect. Run in it they come to the same results and
leave the same site, and it keeps to the order of those that do not overlap. -/
structure Serialization (ids : ι → String) (times : ι → Timestamp) (plan : ι → Plan Outcome)
    (schedule : List ι) (served : ι → Option Outcome) (results : ι → Outcome) (site after : Site)
    (order : List ι) : Prop where
  nodup : order.Nodup
  members : ∀ i, i ∈ order ↔ served i = none
  precedes : ∀ i j, i ∈ order → j ∈ order → Precedes schedule i j → Precedes order i j
  runs : inTurn (fun i => Site.answer (ids i) (times i)) plan order site =
    (order.map results, after)

/-- Plans can be put in order, and those that have taken effect come to the outcome they are served
with. -/
def Serializable (ids : ι → String) (times : ι → Timestamp) (plan : ι → Plan Outcome)
    (schedule : List ι) (served : ι → Option Outcome) (results : ι → Outcome)
    (site after : Site) : Prop :=
  (∀ i outcome, served i = some outcome → results i = outcome) ∧
    ∃ order, Serialization ids times plan schedule served results site after order

section Order

variable {results : ι → Outcome} {later after : Site} {losers order : List ι}

theorem Serialization.runs_prepend
    (h : Serialization ids times plan schedule served results later after order)
    (runs : (plan i).run (Site.answer (ids i) (times i)) site = (results i, later))
    (lost : ∀ j ∈ losers, results j = pageMissing ∧
      (plan j).run (Site.answer (ids j) (times j)) later = (pageMissing, later)) :
    inTurn (fun i => Site.answer (ids i) (times i)) plan (i :: (losers ++ order)) site =
      ((i :: (losers ++ order)).map results, after) := by
  have unchanged := inTurn_of_unchanged fun j hj => (lost j hj).2
  have same : losers.map results = losers.map fun _ => pageMissing :=
    List.map_congr_left fun j hj => (lost j hj).1
  rw [inTurn, runs]
  dsimp only
  rw [inTurn_append, unchanged, h.runs, List.map_cons, List.map_append, same]

theorem Underway.serializable_done (h : Underway ids times plan past served progress site)
    (ended : ∀ i, progress i = .done (results i)) :
    Serializable ids times plan past served results site site := by
  refine ⟨?_, [], List.nodup_nil, ?_, by simp, rfl⟩
  · intro i outcome hi
    rcases ended i ▸ h.bound i outcome hi with hs | ⟨-, id, pursues, -⟩
    · exact hs
    · cases pursues
  · intro i
    simpa using fun hi => h.not_done hi (ended i)

end Order

variable [DecidableEq ι]

/-- One plan moves on and the site stays. -/
theorem Underway.move (h : Underway ids times plan past served progress site)
    {rest : Plan Outcome}
    (waiting : served i = none → Waiting (ids i) (times i) site (plan i) rest)
    (bound : ∀ outcome, served i = some outcome → Bound ids served site outcome rest) :
    Underway ids times plan (past ++ [i]) served (Function.update progress i rest) site where
  mirrored := h.mirrored
  fresh := h.fresh
  waiting j hj := by
    by_cases he : j = i
    · subst he
      rw [Function.update_self]
      rcases waiting hj with ha | hp
      · exact Or.inl ha
      · exact Or.inr ⟨by simp, hp⟩
    · rw [Function.update_of_ne he]
      rcases h.waiting j hj with ha | ⟨hp, held⟩
      · exact Or.inl ha
      · exact Or.inr ⟨List.mem_append_left _ hp, held⟩
  bound j outcome hj := by
    by_cases he : j = i
    · subst he
      rw [Function.update_self]
      exact bound outcome hj
    · rw [Function.update_of_ne he]
      exact h.bound j outcome hj

def serve (i : ι) (outcome : Outcome) (losers : List ι) (served : ι → Option Outcome) :
    ι → Option Outcome :=
  fun j => if j = i then some outcome else if j ∈ losers then some pageMissing else served j

@[simp] theorem serve_self {losers : List ι} :
    serve i outcome losers served i = some outcome :=
  if_pos rfl

@[simp] theorem serve_of_mem {losers : List ι} {j : ι} (hne : j ≠ i) (hj : j ∈ losers) :
    serve i outcome losers served j = some pageMissing := by
  simp [serve, hne, hj]

@[simp] theorem serve_of_not_mem {losers : List ι} {j : ι} (hne : j ≠ i) (hj : j ∉ losers) :
    serve i outcome losers served j = served j := by
  simp [serve, hne, hj]

theorem serve_eq_none {losers : List ι} {j : ι} :
    serve i outcome losers served j = none ↔ j ≠ i ∧ j ∉ losers ∧ served j = none := by
  by_cases hne : j = i
  · simp [hne]
  · by_cases hj : j ∈ losers
    · simp [hne, hj]
    · simp [hne, hj]

/-- Who has lost its page is bound to miss it, since no one is left who could create it anew. -/
theorem Loses.bound {later : Site} {losers : List ι} {j : ι}
    (h : Loses ids times plan past served progress site later i j)
    (underway : Underway ids times plan past served progress site) :
    Bound ids (serve i outcome losers served) later pageMissing (progress j) := by
  obtain ⟨page, held, lacks⟩ := h.holds
  refine Or.inr ⟨rfl, page.id, held.pursues, lacks.1, ?_⟩
  intro k hk hid
  have free := underway.fresh k (serve_eq_none.1 hk).2.2
  obtain ⟨kept, stored, -⟩ := held.stored
  rw [hid, stored] at free
  cases free

theorem Bound.after {losers : List ι} {result : Outcome} {rest : Plan Outcome} {c : Call}
    (h : Bound ids served site result rest) (hi : served i = none) :
    Bound ids (serve i outcome losers served) (site.answer (ids i) (times i) c).2 result rest := by
  rcases h with hs | ⟨hr, id, pursues, free, never⟩
  · exact Or.inl hs
  · exact Or.inr ⟨hr, id, pursues, Site.free_answer (never i hi) free,
      fun k hk => never k (serve_eq_none.1 hk).2.2⟩

/-- One plan takes effect, and with it all that hold a page which is gone by that. -/
theorem Underway.take_effect (distinct : Function.Injective ids)
    (h : Underway ids times plan past served progress site) (hi : served i = none)
    {losers : List ι} {c : Call} {rest : Plan Outcome}
    (mem_losers : ∀ j, j ∈ losers ↔ Loses ids times plan past served progress site
      (site.answer (ids i) (times i) c).2 i j) (settles : rest.Settles outcome) :
    Underway ids times plan (past ++ [i]) (serve i outcome losers served)
      (Function.update progress i rest) (site.answer (ids i) (times i) c).2 where
  mirrored := Site.mirrored_answer h.mirrored (h.fresh i hi)
  fresh j hj := by
    obtain ⟨hne, -, hn⟩ := serve_eq_none.1 hj
    exact Site.free_answer (fun he => hne (distinct he.symm)) (h.fresh j hn)
  waiting j hj := by
    obtain ⟨hne, hnot, hn⟩ := serve_eq_none.1 hj
    rw [Function.update_of_ne hne]
    rcases h.waiting_after hi hn hne (mt (mem_losers j).2 hnot) with asking | ⟨started, held⟩
    · exact Or.inl asking
    · exact Or.inr ⟨List.mem_append_left _ started, held⟩
  bound j result hj := by
    by_cases hne : j = i
    · subst hne
      rw [Function.update_self]
      rw [serve_self, Option.some.injEq] at hj
      exact Or.inl (hj ▸ settles)
    rw [Function.update_of_ne hne]
    by_cases hm : j ∈ losers
    · rw [serve_of_mem hne hm, Option.some.injEq] at hj
      exact hj ▸ ((mem_losers j).1 hm).bound h
    · rw [serve_of_not_mem hne hm] at hj
      exact (h.bound j result hj).after hi

theorem Underway.mem_schedule {results : ι → Outcome} {after : Site}
    (h : Underway ids times plan past served progress site)
    (run : Interleaving (fun i => Site.answer (ids i) (times i)) progress site schedule results
      after)
    (hi : served i = none) : i ∈ schedule := by
  by_contra hn
  exact h.not_done hi (run.done_of_not_mem hn)

section Prepend

variable {results : ι → Outcome} {later after : Site} {losers order : List ι}

/-- Who takes effect comes first, and then come those who have lost their page by it. -/
theorem Serialization.mem_prepend
    (h : Serialization ids times plan schedule (serve i outcome losers served) results later after
      order)
    (hi : served i = none) (lost : ∀ j ∈ losers, served j = none) (j : ι) :
    j ∈ i :: (losers ++ order) ↔ served j = none := by
  rw [List.mem_cons, List.mem_append, h.members, serve_eq_none]
  constructor
  · rintro (rfl | hl | ⟨-, -, hn⟩)
    · exact hi
    · exact lost j hl
    · exact hn
  · intro hn
    by_cases hne : j = i
    · exact Or.inl hne
    · by_cases hl : j ∈ losers
      · exact Or.inr (Or.inl hl)
      · exact Or.inr (Or.inr ⟨hne, hl, hn⟩)

theorem Serialization.nodup_prepend
    (h : Serialization ids times plan schedule (serve i outcome losers served) results later after
      order)
    (nodup : losers.Nodup) (other : ∀ j ∈ losers, j ≠ i) : (i :: (losers ++ order)).Nodup := by
  have unserved : ∀ j ∈ order, j ≠ i ∧ j ∉ losers := by
    intro j hj
    obtain ⟨hne, hl, -⟩ := serve_eq_none.1 ((h.members j).1 hj)
    exact ⟨hne, hl⟩
  rw [List.nodup_cons, List.nodup_append]
  refine ⟨?_, nodup, h.nodup, ?_⟩
  · intro hm
    rcases List.mem_append.1 hm with hl | ho
    · exact other i hl rfl
    · exact (unserved i ho).1 rfl
  · rintro j hl k ho rfl
    exact (unserved j ho).2 hl

theorem Serialization.precedes_prepend
    (h : Serialization ids times plan (past ++ i :: schedule) (serve i outcome losers served)
      results later after order)
    (started : ∀ j ∈ losers, j ∈ past) {j k : ι} (hj : j ∈ i :: schedule)
    (hk : k ∈ i :: (losers ++ order)) (hp : Precedes (past ++ i :: schedule) j k) :
    Precedes (i :: (losers ++ order)) j k := by
  have split : past ++ i :: schedule = past ++ [i] ++ schedule := by simp
  by_cases hki : k = i
  · -- `i` has made a call by now, so who comes before it has none left
    subst hki
    rcases List.mem_cons.1 hj with rfl | hjs
    · exact absurd hp (not_precedes_self (by simp))
    · rw [split] at hp
      exact absurd hp (not_precedes_of_mem (by simp) hjs)
  by_cases hkl : k ∈ losers
  · exact absurd hp (not_precedes_of_mem (started k hkl) hj)
  have hko : k ∈ order := by simpa [hki, hkl] using hk
  have hkn : k ∉ i :: losers := by simp [hki, hkl]
  by_cases hjo : j ∈ order
  · exact (h.precedes j k hjo hko hp).append_left hkn
  · exact ⟨i :: losers, order, rfl, hjo, hkn⟩

theorem Serialization.prepend
    (h : Serialization ids times plan (past ++ i :: schedule) (serve i outcome losers served)
      results later after order)
    (hi : served i = none) (remaining : ∀ j, served j = none → j ∈ i :: schedule)
    (runs : (plan i).run (Site.answer (ids i) (times i)) site = (results i, later))
    (within : site.components.Within later.components) (nodup : losers.Nodup)
    (lost : ∀ j ∈ losers, Loses ids times plan past served progress site later i j)
    (missed : ∀ j ∈ losers, results j = pageMissing) :
    Serialization ids times plan (past ++ i :: schedule) served results site after
      (i :: (losers ++ order)) := by
  have members := h.mem_prepend hi fun j hj => (lost j hj).unserved
  exact {
    nodup := h.nodup_prepend nodup fun j hj => (lost j hj).other
    members := members
    precedes := fun j k hj hk hp => h.precedes_prepend (fun j hj => (lost j hj).started)
      (remaining j ((members j).1 hj)) hk hp
    runs := h.runs_prepend runs fun j hj => ⟨missed j hj, (lost j hj).run within⟩ }

end Prepend

/-- If the plans can be put in order once one of them has taken effect, they can be before. -/
theorem Underway.serializable_of_effect (distinct : Function.Injective ids)
    {results : ι → Outcome} {after : Site}
    (h : Underway ids times plan past served progress site) (hi : served i = none) {c : Call}
    {rest : Plan Outcome} (remaining : ∀ j, served j = none → j ∈ i :: schedule)
    (runs : (plan i).run (Site.answer (ids i) (times i)) site =
      (outcome, (site.answer (ids i) (times i) c).2))
    (settles : rest.Settles outcome)
    (further : ∀ served, Underway ids times plan (past ++ [i]) served
      (Function.update progress i rest) (site.answer (ids i) (times i) c).2 →
        Serializable ids times plan (past ++ i :: schedule) served results
          (site.answer (ids i) (times i) c).2 after) :
    Serializable ids times plan (past ++ i :: schedule) served results site after := by
  obtain ⟨losers, nodup, mem_losers⟩ := exists_losers remaining
    (site.answer (ids i) (times i) c).2 i
  have lost := fun j hj => (mem_losers j).1 hj
  obtain ⟨agrees, order, serialization⟩ := further _ (h.take_effect distinct hi mem_losers settles)
  have result : results i = outcome := agrees i outcome serve_self
  have missed := fun j hj => agrees j pageMissing (serve_of_mem (lost j hj).other hj)
  refine ⟨fun j known hj => ?_, _, serialization.prepend hi remaining (result ▸ runs)
    Site.within_answer nodup lost missed⟩
  have hne : j ≠ i := by
    rintro rfl
    rw [hi] at hj
    cases hj
  have hnl : j ∉ losers := by
    intro hl
    rw [(lost j hl).unserved] at hj
    cases hj
  exact agrees j known (by rw [serve_of_not_mem hne hnl, hj])

/-- Plans that are underway can be put in order. -/
theorem Underway.serializable (distinct : Function.Injective ids) {results : ι → Outcome}
    {after : Site} (h : Underway ids times plan past served progress site)
    (run : Interleaving (fun i => Site.answer (ids i) (times i)) progress site schedule results
      after) :
    Serializable ids times plan (past ++ schedule) served results site after := by
  induction run generalizing past served with
  | @done progress results site ended => simpa using h.serializable_done ended
  | @step progress site after schedule results i c next asks later ih =>
    have split : past ++ i :: schedule = past ++ [i] ++ schedule := by simp
    rw [split]
    -- a call that changes nothing leaves the plans that are still to take effect as they are
    have idle (same : (site.answer (ids i) (times i) c).2 = site)
        (moved : Underway ids times plan (past ++ [i]) served
          (Function.update progress i (next (site.answer (ids i) (times i) c).1)) site) :
        Serializable ids times plan (past ++ [i] ++ schedule) served results site after := by
      have further := @ih (past ++ [i]) served (by rw [same]; exact moved)
      rwa [same] at further
    cases hi : served i with
    | some outcome =>
      have bound := h.bound i outcome hi
      rw [asks] at bound
      obtain ⟨same, settles⟩ := bound.call (ids i) (times i)
      refine idle same (h.move (by simp [hi]) ?_)
      intro result hr
      rw [hi, Option.some.injEq] at hr
      exact Or.inl (hr ▸ settles)
    | none =>
      have waits := h.waits hi
      rw [asks] at waits
      rcases waits.call h.mirrored with ⟨same, waiting⟩ | ⟨outcome, runs, settles⟩
      · exact idle same (h.move (fun _ => waiting) (by simp [hi]))
      · rw [← split]
        refine h.serializable_of_effect distinct hi
          (fun j hj => h.mem_schedule (.step asks later) hj) runs settles fun served underway => ?_
        rw [split]
        exact ih underway

end Together

end SiteDesk.Command
