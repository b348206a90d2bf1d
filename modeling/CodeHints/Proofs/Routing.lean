import CodeHints.Proofs.Router
import Mathlib.Data.List.Induction
import Mathlib.Logic.Function.Basic

/-!
# Where deliveries go

Windows are attached, detached and attached again, inboxes are emptied and given up, and all the
time something is delivered to the windows. A `Routing` is a router with what was run of the
inboxes, and its runs are lists of events. The router never looks into a delivery, so a delivery is
known by its number among all that were posted.

## What a history says

Where a delivery has to go is told by the history alone: `IsOpen events window id` says that `id` is
the inbox that the last attachment of the window has opened, and that nothing has put an end to it
since then. From this `Accepted` tells which inbox takes which delivery. Neither of them mentions
the table of the router, which forgets a window when it is detached, and an inbox when another one
takes its place.

What was run of an inbox and what is queued in it make up one list, `Routing.contents`, and a
delivery is only ever put at its end. Numbers grow along it, which is to say that the deliveries are
in the order in which they were posted and that none is there twice.
-/

namespace CodeHints

inductive RoutingEvent where
  | attach (window : WindowKey)
  | detach (window : WindowKey)
  | clear
  | deliver (window : WindowKey)
  /-- The oldest delivery in an inbox is run. -/
  | receive (id : InboxId)
  /-- Everything in an inbox is run. -/
  | drain (id : InboxId)
  /-- An inbox is given up. -/
  | drop (id : InboxId)

/-- A router with what was run. -/
structure Routing where
  router : Router Nat
  /-- How many deliveries were posted. -/
  posted : Nat
  /-- The deliveries that were run of an inbox, the latest last. -/
  ran : InboxId → List Nat

namespace Routing

def start : Routing := ⟨.empty, 0, fun _ ↦ []⟩

/-- Deliveries that came out of an inbox are run. -/
def runs (s : Routing) (id : InboxId) (deliveries : List Nat) (router : Router Nat) : Routing :=
  { s with router := router, ran := Function.update s.ran id (s.ran id ++ deliveries) }

def receive (s : Routing) (id : InboxId) : Routing :=
  match s.router.take? id with
  | some (delivery, router) => s.runs id [delivery] router
  | none => s

/-- Run everything in an inbox. The result is the number of deliveries that are run. -/
def drain (s : Routing) (id : InboxId) : Nat × Routing :=
  let (deliveries, router) := s.router.takeAll id
  (deliveries.length, s.runs id deliveries router)

def step (s : Routing) : RoutingEvent → Routing
  | .attach window => { s with router := (s.router.attach window).2 }
  | .detach window => { s with router := s.router.detach window }
  | .clear => { s with router := s.router.clear }
  | .deliver window =>
    { s with router := (s.router.deliver window s.posted).2, posted := s.posted + 1 }
  | .receive id => s.receive id
  | .drain id => (s.drain id).2
  | .drop id => { s with router := s.router.drop id }

def run (events : List RoutingEvent) : Routing := events.foldl step start

/-- The deliveries that were run of an inbox and those that are queued in it. -/
def contents (s : Routing) (id : InboxId) : List Nat := s.ran id ++ s.router.queued id

/-! ## The history -/

def openings (events : List RoutingEvent) : Nat :=
  events.countP fun | .attach _ => true | _ => false

def postings (events : List RoutingEvent) : Nat :=
  events.countP fun | .deliver _ => true | _ => false

/-- An event puts an end to what a window had with an inbox. -/
def Ends (window : WindowKey) (id : InboxId) : RoutingEvent → Prop
  | .attach other | .detach other => other = window
  | .clear => True
  | .drop other => other = id
  | .deliver _ | .receive _ | .drain _ => False

/-- The last attachment of a window has opened an inbox, and nothing has put an end to it. -/
def IsOpen (events : List RoutingEvent) (window : WindowKey) (id : InboxId) : Prop :=
  ∃ before after, events = before ++ .attach window :: after ∧ id = ⟨openings before⟩ ∧
    ∀ e ∈ after, ¬Ends window id e

/-- A delivery was posted to a window when an inbox was open for it. -/
def Accepted (events : List RoutingEvent) (number : Nat) (id : InboxId) : Prop :=
  ∃ before window after, events = before ++ .deliver window :: after ∧ number = postings before ∧
    IsOpen before window id

/-- An inbox was given up after it was opened. -/
def GivenUp (events : List RoutingEvent) (id : InboxId) : Prop :=
  ∃ before after, events = before ++ .drop id :: after ∧ id.index < openings before

/-- Every delivery goes where the history says. -/
structure RoutesExactly (events : List RoutingEvent) (s : Routing) : Prop where
  attached : ∀ window, s.router.isAttached window = true ↔ ∃ id, IsOpen events window id
  accepts : ∀ window number,
    (s.router.deliver window number).1 = true ↔ ∃ id, IsOpen events window id
  /-- No delivery is taken by two inboxes. -/
  recipient : ∀ number id other,
    Accepted events number id → Accepted events number other → id = other
  /-- What was run, and what will be run next, is what was accepted. -/
  belongs : ∀ id, ∀ number ∈ s.contents id, Accepted events number id
  /-- Nothing gets lost in an inbox that is held. -/
  keeps : ∀ number id, Accepted events number id → ¬GivenUp events id → number ∈ s.contents id
  /-- The order is that of posting, and nothing is there twice. -/
  inOrder : ∀ id, (s.contents id).Pairwise (· < ·)
  /-- What was run comes before what was not, also in an inbox that was given up. -/
  first : ∀ id, ∀ number ∈ s.ran id, ∀ earlier < number, Accepted events earlier id →
    earlier ∈ s.ran id
  drains : ∀ id, (s.drain id).1 = (s.router.queued id).length ∧
    (s.drain id).2.ran id = s.ran id ++ s.router.queued id ∧
    (s.drain id).2.router.queued id = [] ∧
    ∀ other ≠ id, (s.drain id).2.ran other = s.ran other ∧
      (s.drain id).2.router.queued other = s.router.queued other
  refused : ∀ number, (∀ id, ¬Accepted events number id) → ∀ id, number ∉ s.ran id

/-! ## How the history grows -/

variable {events : List RoutingEvent} {e : RoutingEvent} {window : WindowKey} {id : InboxId}
  {number : Nat}

theorem run_append_single (events : List RoutingEvent) (e : RoutingEvent) :
    run (events ++ [e]) = (run events).step e := by
  rw [run, List.foldl_append]
  rfl

@[simp] theorem openings_append (events more : List RoutingEvent) :
    openings (events ++ more) = openings events + openings more := List.countP_append

@[simp] theorem postings_append (events more : List RoutingEvent) :
    postings (events ++ more) = postings events + postings more := List.countP_append

/-- An event of a longer history is the last one, or one of the history before. -/
private theorem append_single_eq_iff {before after : List RoutingEvent} {x : RoutingEvent} :
    events ++ [e] = before ++ x :: after ↔
      (before = events ∧ x = e ∧ after = []) ∨
        ∃ front, after = front ++ [e] ∧ events = before ++ x :: front := by
  constructor
  · intro hsplit
    rcases List.eq_nil_or_concat after with rfl | ⟨front, last, rfl⟩
    · obtain ⟨hbefore, hlast⟩ := List.append_inj' hsplit rfl
      exact .inl ⟨hbefore.symm, (List.singleton_inj.mp hlast).symm, rfl⟩
    · rw [List.concat_eq_append, ← List.cons_append, ← List.append_assoc] at hsplit
      obtain ⟨hevents, hlast⟩ := List.append_inj' hsplit rfl
      refine .inr ⟨front, ?_, hevents⟩
      rw [List.concat_eq_append, List.singleton_inj.mp hlast]
  · rintro (⟨rfl, rfl, rfl⟩ | ⟨front, rfl, rfl⟩)
    · rfl
    · simp

theorem isOpen_append_single : IsOpen (events ++ [e]) window id ↔
    (e = .attach window ∧ id = ⟨openings events⟩) ∨
      IsOpen events window id ∧ ¬Ends window id e := by
  constructor
  · rintro ⟨before, after, hsplit, hid, hends⟩
    obtain ⟨rfl, rfl, rfl⟩ | ⟨front, rfl, rfl⟩ := append_single_eq_iff.mp hsplit
    · exact .inl ⟨rfl, hid⟩
    · exact .inr ⟨⟨before, front, rfl, hid, fun f hf ↦ hends f (List.mem_append_left _ hf)⟩,
        hends e (List.mem_append_right _ List.mem_cons_self)⟩
  · rintro (⟨rfl, hid⟩ | ⟨⟨before, front, rfl, hid, hends⟩, hend⟩)
    · exact ⟨events, [], rfl, hid, nofun⟩
    · refine ⟨before, front ++ [e], by simp, hid, fun f hf ↦ ?_⟩
      obtain hf | hf := List.mem_append.mp hf
      · exact hends f hf
      · rwa [List.mem_singleton.mp hf]

theorem accepted_append_single : Accepted (events ++ [e]) number id ↔
    Accepted events number id ∨
      ∃ window, e = .deliver window ∧ number = postings events ∧ IsOpen events window id := by
  constructor
  · rintro ⟨before, window, after, hsplit, hopen⟩
    obtain ⟨rfl, rfl, rfl⟩ | ⟨front, rfl, rfl⟩ := append_single_eq_iff.mp hsplit
    · exact .inr ⟨window, rfl, hopen⟩
    · exact .inl ⟨before, window, front, rfl, hopen⟩
  · rintro (⟨before, window, front, rfl, hopen⟩ | ⟨window, rfl, hopen⟩)
    · exact ⟨before, window, front ++ [e], by simp, hopen⟩
    · exact ⟨events, window, [], rfl, hopen⟩

theorem givenUp_append_single : GivenUp (events ++ [e]) id ↔
    GivenUp events id ∨ e = .drop id ∧ id.index < openings events := by
  constructor
  · rintro ⟨before, after, hsplit, hindex⟩
    obtain ⟨rfl, rfl, rfl⟩ | ⟨front, rfl, rfl⟩ := append_single_eq_iff.mp hsplit
    · exact .inr ⟨rfl, hindex⟩
    · exact .inl ⟨before, front, rfl, hindex⟩
  · rintro (⟨before, front, rfl, hindex⟩ | ⟨rfl, hindex⟩)
    · exact ⟨before, front ++ [e], by simp, hindex⟩
    · exact ⟨events, [], rfl, hindex⟩

theorem IsOpen.index_lt (h : IsOpen events window id) : id.index < openings events := by
  obtain ⟨before, after, rfl, rfl, -⟩ := h
  have hone : openings (.attach window :: after) = openings after + 1 := List.countP_cons_of_pos rfl
  rw [openings_append, hone]
  exact Nat.lt_add_of_pos_right (Nat.succ_pos _)

theorem Accepted.index_lt (h : Accepted events number id) : id.index < openings events := by
  obtain ⟨before, window, after, rfl, -, hopen⟩ := h
  rw [openings_append]
  exact Nat.lt_add_right _ hopen.index_lt

theorem Accepted.number_lt (h : Accepted events number id) : number < postings events := by
  obtain ⟨before, window, after, rfl, rfl, -⟩ := h
  have hone : postings (.deliver window :: after) = postings after + 1 :=
    List.countP_cons_of_pos rfl
  rw [postings_append, hone]
  omega

/-! ## The router follows the history -/

/-- The table and the inboxes are as the history has them. -/
structure Sound (events : List RoutingEvent) (s : Routing) : Prop where
  posted : s.posted = postings events
  opened : s.router.inboxes.length = openings events
  known : ∀ x ∈ s.router.windows, x.2.index < openings events
  target : ∀ window id, s.router.target? window = some id ↔ IsOpen events window id
  held : ∀ id, s.router.isHeld id = true ↔ id.index < openings events ∧ ¬GivenUp events id
  emptied : ∀ id, GivenUp events id → s.router.queued id = []
  belongs : ∀ id, ∀ number ∈ s.contents id, Accepted events number id
  keeps : ∀ number id, Accepted events number id → ¬GivenUp events id → number ∈ s.contents id
  inOrder : ∀ id, (s.contents id).Pairwise (· < ·)
  first : ∀ id, ∀ number ∈ s.ran id, ∀ earlier < number, Accepted events earlier id →
    earlier ∈ s.ran id

variable {s s' : Routing}

namespace Sound

theorem isOpen_unique (h : Sound events s) {other : InboxId} (hopen : IsOpen events window id)
    (hother : IsOpen events window other) : id = other :=
  Option.some.inj (((h.target _ _).mpr hopen).symm.trans ((h.target _ _).mpr hother))

/-- Only a delivery adds to what there is in an inbox, and only giving it up takes from it. -/
theorem of_contents (h : Sound events s) (hposted : s'.posted = s.posted)
    (hcontents : ∀ id, s'.contents id = s.contents id)
    (hempty : ∀ id, s.router.queued id = [] → s'.router.queued id = [])
    (hdeliver : ∀ window, e ≠ .deliver window) (hdrop : ∀ id, e ≠ .drop id)
    (hopened : s'.router.inboxes.length = openings (events ++ [e]))
    (hknown : ∀ x ∈ s'.router.windows, x.2.index < openings (events ++ [e]))
    (htarget : ∀ window id, s'.router.target? window = some id ↔
      (e = .attach window ∧ id = ⟨openings events⟩) ∨
        s.router.target? window = some id ∧ ¬Ends window id e)
    (hheld : ∀ id, s'.router.isHeld id = true ↔
      id.index < openings (events ++ [e]) ∧ ¬GivenUp events id) :
    Sound (events ++ [e]) s' := by
  have haccepted {number : Nat} {id : InboxId} :
      Accepted (events ++ [e]) number id ↔ Accepted events number id := by
    rw [accepted_append_single]
    exact or_iff_left fun ⟨window, he, _⟩ ↦ hdeliver window he
  have hgivenUp {id : InboxId} : GivenUp (events ++ [e]) id ↔ GivenUp events id := by
    rw [givenUp_append_single]
    exact or_iff_left fun he ↦ hdrop id he.1
  refine
    { posted := ?posted, opened := hopened, known := hknown, target := ?target, held := ?held,
      emptied := ?emptied, belongs := ?belongs, keeps := ?keeps, inOrder := ?inOrder,
      first := ?first }
  case posted =>
    have hzero : postings [e] = 0 := by
      cases e with
      | deliver window => exact absurd rfl (hdeliver window)
      | _ => rfl
    rw [hposted, h.posted, postings_append, hzero, Nat.add_zero]
  case target =>
    intro window id
    rw [htarget, h.target, isOpen_append_single]
  case held =>
    intro id
    rw [hheld, hgivenUp]
  case emptied =>
    exact fun id hid ↦ hempty id (h.emptied id (hgivenUp.mp hid))
  case belongs =>
    intro id number hnumber
    rw [hcontents] at hnumber
    exact haccepted.mpr (h.belongs id number hnumber)
  case keeps =>
    intro number id hnumber hid
    rw [hcontents]
    exact h.keeps number id (haccepted.mp hnumber) (mt hgivenUp.mpr hid)
  case inOrder =>
    intro id
    rw [hcontents]
    exact h.inOrder id
  case first =>
    intro id number hnumber earlier hlt hearlier
    have hsame := hcontents id
    by_cases hid : GivenUp events id
    · -- Nothing is queued, neither before nor after, so that nothing was run either.
      have hqueued := h.emptied id hid
      rw [contents, contents, hempty id hqueued, hqueued, List.append_nil, List.append_nil] at hsame
      rw [hsame] at hnumber ⊢
      exact h.first id number hnumber earlier hlt (haccepted.mp hearlier)
    · have hmem := h.keeps earlier id (haccepted.mp hearlier) hid
      have horder := h.inOrder id
      rw [← hsame] at hmem horder
      obtain hran | hqueued := List.mem_append.mp hmem
      · exact hran
      · have hgt := (List.pairwise_append.mp horder).2.2 number hnumber earlier hqueued
        exact absurd hlt (Nat.lt_asymm hgt)

theorem attach (h : Sound events s) (window : WindowKey) :
    Sound (events ++ [.attach window]) (s.step (.attach window)) := by
  have hopenings : openings (events ++ [.attach window]) = openings events + 1 :=
    openings_append _ _
  have hqueued (id : InboxId) : (s.step (.attach window)).router.queued id = s.router.queued id :=
    s.router.queued_attach window id
  refine h.of_contents rfl (fun id ↦ congrArg (s.ran id ++ ·) (hqueued id))
    (fun id hid ↦ (hqueued id).trans hid) nofun nofun ?_ ?_ ?_ ?_
  · rw [hopenings, ← h.opened]
    exact List.length_append
  · intro x hx
    rw [hopenings]
    obtain hold | hnew := List.mem_append.mp hx
    · exact Nat.lt_succ_of_lt (h.known x (List.mem_of_mem_filter hold))
    · rw [List.mem_singleton.mp hnew, ← h.opened]
      exact Nat.lt_succ_self _
  · intro other id
    have hheld := s.router.isHeld_attach window id
    have hlookup : (s.router.attach window).2.windows.lookup other =
        (Registry.without s.router.windows window ++
          [(window, InboxId.mk s.router.inboxes.length)]).lookup other := rfl
    rw [Router.target?_eq_some_iff, Router.target?_eq_some_iff]
    change (s.router.attach window).2.windows.lookup other = some id ∧
      (s.router.attach window).2.isHeld id = true ↔ _
    rw [hheld, hlookup]
    by_cases hother : other = window
    · subst hother
      rw [List.lookup_append, Registry.lookup_without, Option.none_or, h.opened]
      simp only [List.lookup_cons_self, Ends, not_true, and_false, or_false, true_and,
        Option.some.injEq]
      constructor
      · rintro ⟨hid, -⟩
        exact hid.symm
      · rintro rfl
        exact ⟨rfl, .inl rfl⟩
    · rw [Registry.lookup_append_single_of_ne _ hother, Registry.lookup_without_of_ne _ hother]
      have hne : RoutingEvent.attach window ≠ .attach other :=
        fun e ↦ hother (RoutingEvent.attach.inj e).symm
      simp only [hne, false_and, false_or, Ends, Ne.symm hother, not_false_eq_true, and_true]
      -- The inbox of another window was opened before, so it is not the new one.
      refine and_congr_right fun hfound ↦ or_iff_right ?_
      rintro rfl
      have hlt := h.known _ (Registry.mem_of_lookup hfound)
      rw [h.opened] at hlt
      exact Nat.lt_irrefl _ hlt
  · intro id
    have hheld := s.router.isHeld_attach window id
    refine hheld.trans ?_
    rw [h.held, hopenings, h.opened]
    constructor
    · rintro (rfl | ⟨hlt, hkept⟩)
      · refine ⟨Nat.lt_succ_self _, ?_⟩
        rintro ⟨before, after, hsplit, hlt⟩
        have hopened : openings events = openings before + openings (.drop ⟨_⟩ :: after) :=
          hsplit ▸ openings_append _ _
        have hindex : openings events < openings before := hlt
        omega
      · exact ⟨Nat.lt_succ_of_lt hlt, hkept⟩
    · rintro ⟨hlt, hkept⟩
      obtain hlt | heq := Nat.lt_succ_iff_lt_or_eq.mp hlt
      · exact .inr ⟨hlt, hkept⟩
      · exact .inl (congrArg InboxId.mk heq)

theorem narrow (h : Sound events s) {windows : List (WindowKey × InboxId)}
    (hsub : windows ⊆ s.router.windows) (hattach : ∀ window, e ≠ .attach window)
    (hdeliver : ∀ window, e ≠ .deliver window) (hdrop : ∀ id, e ≠ .drop id)
    (hlookup : ∀ window id, windows.lookup window = some id ↔
      s.router.windows.lookup window = some id ∧ ¬Ends window id e) :
    Sound (events ++ [e]) { s with router := { s.router with windows := windows } } := by
  have hopenings : openings (events ++ [e]) = openings events := by
    have hzero : openings [e] = 0 := by
      cases e with
      | attach window => exact absurd rfl (hattach window)
      | _ => rfl
    rw [openings_append, hzero, Nat.add_zero]
  refine h.of_contents rfl (fun _ ↦ rfl) (fun _ ↦ id) hdeliver hdrop ?_ ?_ ?_ ?_
  · rw [hopenings]
    exact h.opened
  · intro x hx
    rw [hopenings]
    exact h.known x (hsub hx)
  · intro window id
    rw [Router.target?_eq_some_iff, Router.target?_eq_some_iff]
    dsimp only
    rw [hlookup, or_iff_right fun he ↦ hattach window he.1]
    exact and_right_comm
  · intro id
    rw [hopenings]
    exact h.held id

theorem detach (h : Sound events s) (window : WindowKey) :
    Sound (events ++ [.detach window]) (s.step (.detach window)) := by
  refine h.narrow (List.filter_subset_self _) nofun nofun nofun fun other id ↦ ?_
  change (Registry.without s.router.windows window).lookup other = some id ↔ _
  by_cases hother : other = window
  · subst hother
    rw [Registry.lookup_without]
    simp [Ends]
  · rw [Registry.lookup_without_of_ne _ hother]
    simp [Ends, Ne.symm hother]

theorem clear (h : Sound events s) : Sound (events ++ [.clear]) (s.step .clear) :=
  h.narrow (List.nil_subset _) nofun nofun nofun fun window id ↦ by simp [Ends]

theorem deliver (h : Sound events s) (window : WindowKey) :
    Sound (events ++ [.deliver window]) (s.step (.deliver window)) := by
  have hopenings : openings (events ++ [.deliver window]) = openings events := openings_append _ _
  have hgivenUp {id : InboxId} : GivenUp (events ++ [.deliver window]) id ↔ GivenUp events id := by
    rw [givenUp_append_single]
    exact or_iff_left fun he ↦ nomatch he.1
  have hcontents (id : InboxId) : (s.step (.deliver window)).contents id =
      if s.router.target? window = some id then s.contents id ++ [s.posted] else s.contents id := by
    have hqueued := s.router.queued_deliver window s.posted id
    change s.ran id ++ (s.router.deliver window s.posted).2.queued id = _
    rw [hqueued, contents]
    split
    · exact (List.append_assoc _ _ _).symm
    · rfl
  have haccepted {number : Nat} {id : InboxId} :
      Accepted (events ++ [.deliver window]) number id ↔
        Accepted events number id ∨ number = s.posted ∧ s.router.target? window = some id := by
    rw [accepted_append_single, h.posted, h.target]
    refine or_congr_right ⟨?_, fun hnew ↦ ⟨window, rfl, hnew⟩⟩
    rintro ⟨other, hsame, hnew⟩
    rwa [RoutingEvent.deliver.inj hsame]
  refine
    { posted := ?posted, opened := ?opened, known := ?known, target := ?target, held := ?held,
      emptied := ?emptied, belongs := ?belongs, keeps := ?keeps, inOrder := ?inOrder,
      first := ?first }
  case posted =>
    rw [postings_append, ← h.posted]
    rfl
  case opened =>
    rw [hopenings, ← h.opened]
    exact s.router.length_deliver _ _
  case known =>
    rw [hopenings]
    intro x hx
    exact h.known x (s.router.windows_deliver window _ ▸ hx)
  case target =>
    intro other id
    have hlookup := congrArg (·.lookup other) (s.router.windows_deliver window s.posted)
    have hheld := s.router.isHeld_deliver window s.posted id
    rw [isOpen_append_single, ← h.target, Router.target?_eq_some_iff, Router.target?_eq_some_iff]
    change List.lookup other (s.router.deliver window s.posted).2.windows = some id ∧
      (s.router.deliver window s.posted).2.isHeld id = true ↔ _
    rw [hlookup, hheld]
    simp [Ends]
  case held =>
    intro id
    rw [hopenings, hgivenUp, ← h.held]
    exact Bool.eq_iff_iff.mp (s.router.isHeld_deliver _ _ _)
  case emptied =>
    intro id hid
    have hqueued := s.router.queued_deliver window s.posted id
    refine hqueued.trans ?_
    -- An inbox that was given up is not held, so nothing goes there.
    rw [if_neg, h.emptied id (hgivenUp.mp hid)]
    intro htarget
    have hheld := (h.held id).mp (s.router.target?_eq_some_iff.mp htarget).2
    exact hheld.2 (hgivenUp.mp hid)
  case belongs =>
    intro id number hnumber
    rw [hcontents] at hnumber
    split at hnumber
    · next htarget =>
      obtain hold | hnew := List.mem_append.mp hnumber
      · exact haccepted.mpr (.inl (h.belongs id number hold))
      · exact haccepted.mpr (.inr ⟨List.mem_singleton.mp hnew, htarget⟩)
    · exact haccepted.mpr (.inl (h.belongs id number hnumber))
  case keeps =>
    intro number id hnumber hid
    rw [hcontents]
    obtain hold | ⟨rfl, htarget⟩ := haccepted.mp hnumber
    · have hmem := h.keeps number id hold (mt hgivenUp.mpr hid)
      split
      · exact List.mem_append_left _ hmem
      · exact hmem
    · rw [if_pos htarget]
      exact List.mem_append_right _ List.mem_cons_self
  case inOrder =>
    intro id
    rw [hcontents]
    split
    · refine List.pairwise_append.mpr ⟨h.inOrder id, List.pairwise_singleton _ _, ?_⟩
      intro number hnumber last hlast
      rw [List.mem_singleton.mp hlast, h.posted]
      exact (h.belongs id number hnumber).number_lt
    · exact h.inOrder id
  case first =>
    intro id number hnumber earlier hlt hearlier
    obtain hold | ⟨rfl, -⟩ := haccepted.mp hearlier
    · exact h.first id number hnumber earlier hlt hold
    · -- What was run is older than the new delivery.
      have hbefore := (h.belongs id number (List.mem_append_left _ hnumber)).number_lt
      rw [← h.posted] at hbefore
      exact absurd hbefore (Nat.lt_asymm hlt)

theorem runs (h : Sound events s) {id : InboxId} {deliveries : List Nat} {router : Router Nat}
    (he : e = .receive id ∨ e = .drain id) (hwindows : router.windows = s.router.windows)
    (hlength : router.inboxes.length = s.router.inboxes.length)
    (hheld : ∀ other, router.isHeld other = s.router.isHeld other)
    (hqueued : s.router.queued id = deliveries ++ router.queued id)
    (hothers : ∀ other ≠ id, router.queued other = s.router.queued other) :
    Sound (events ++ [e]) (s.runs id deliveries router) := by
  have hopenings : openings (events ++ [e]) = openings events := by
    obtain rfl | rfl := he <;> exact openings_append _ _
  have hends (window : WindowKey) (other : InboxId) : ¬Ends window other e := by
    obtain rfl | rfl := he <;> exact not_false
  have hattach (window : WindowKey) : e ≠ .attach window := by
    obtain rfl | rfl := he <;> exact nofun
  refine h.of_contents rfl (fun other ↦ ?_) (fun other hother ↦ ?_) ?_ ?_ ?_ ?_ ?_ ?_
  · by_cases hid : other = id
    · subst hid
      have hran : (s.runs other deliveries router).ran other = s.ran other ++ deliveries :=
        Function.update_self _ _ _
      rw [contents, contents, hran, hqueued]
      exact List.append_assoc _ _ _
    · have hran : (s.runs id deliveries router).ran other = s.ran other :=
        Function.update_of_ne hid _ _
      rw [contents, contents, hran]
      exact congrArg (s.ran other ++ ·) (hothers other hid)
  · by_cases hid : other = id
    · subst hid
      exact (List.append_eq_nil_iff.mp (hqueued.symm.trans hother)).2
    · exact (hothers other hid).trans hother
  · obtain rfl | rfl := he <;> exact nofun
  · obtain rfl | rfl := he <;> exact nofun
  · rw [hopenings, ← h.opened]
    exact hlength
  · rw [hopenings]
    exact fun x hx ↦ h.known x (hwindows ▸ hx)
  · intro window other
    rw [or_iff_right fun hnew ↦ hattach window hnew.1, and_iff_left (hends window other),
      Router.target?_eq_some_iff, Router.target?_eq_some_iff]
    change router.windows.lookup window = some other ∧ router.isHeld other = true ↔ _
    rw [hwindows, hheld]
  · intro other
    rw [hopenings, ← h.held]
    exact Bool.eq_iff_iff.mp (hheld other)

theorem receive (h : Sound events s) (id : InboxId) :
    Sound (events ++ [.receive id]) (s.step (.receive id)) := by
  change Sound _ (s.receive id)
  rw [Routing.receive]
  split
  · next delivery router htake =>
    obtain ⟨hqueued, hothers⟩ := s.router.queued_take? htake
    exact h.runs (.inl rfl) (Router.windows_take? htake) (s.router.length_take? htake)
      (fun _ ↦ s.router.isHeld_take? htake) hqueued hothers
  · next htake =>
    -- Nothing is queued, and to run nothing changes nothing.
    have hsame : s.runs id [] s.router = s := by
      rw [Routing.runs, List.append_nil, Function.update_eq_self]
    rw [← hsame]
    exact h.runs (.inl rfl) rfl rfl (fun _ ↦ rfl) rfl fun _ _ ↦ rfl

theorem drain (h : Sound events s) (id : InboxId) :
    Sound (events ++ [.drain id]) (s.step (.drain id)) := by
  have hqueued := s.router.queued_takeAll id id
  rw [if_pos rfl] at hqueued
  refine h.runs (.inr rfl) rfl (s.router.length_modify _) (s.router.isHeld_takeAll id) ?_ ?_
  · exact ((congrArg (s.router.queued id ++ ·) hqueued).trans (List.append_nil _)).symm
  · intro other hother
    exact (s.router.queued_takeAll _ _).trans (if_neg hother)

/-- An inbox that is given up keeps what was run, and nothing else. -/
theorem drop (h : Sound events s) (id : InboxId) :
    Sound (events ++ [.drop id]) (s.step (.drop id)) := by
  have hopenings : openings (events ++ [.drop id]) = openings events := openings_append _ _
  have hgivenUp {other : InboxId} : GivenUp (events ++ [.drop id]) other ↔
      GivenUp events other ∨ other = id ∧ id.index < openings events := by
    rw [givenUp_append_single]
    refine or_congr_right ⟨?_, ?_⟩
    · rintro ⟨hsame, hlt⟩
      cases hsame
      exact ⟨rfl, hlt⟩
    · rintro ⟨rfl, hlt⟩
      exact ⟨rfl, hlt⟩
  have haccepted {number : Nat} {other : InboxId} :
      Accepted (events ++ [.drop id]) number other ↔ Accepted events number other := by
    rw [accepted_append_single]
    exact or_iff_left fun ⟨window, he, _⟩ ↦ nomatch he
  have hqueued (other : InboxId) : (s.step (.drop id)).router.queued other =
      if other = id then [] else s.router.queued other :=
    s.router.queued_drop id other
  have hsub (other : InboxId) :
      ((s.step (.drop id)).contents other).Sublist (s.contents other) := by
    rw [contents, contents, hqueued]
    refine (List.Sublist.refl _).append ?_
    split
    · exact List.nil_sublist _
    · exact .refl _
  refine
    { posted := ?posted, opened := ?opened, known := ?known, target := ?target, held := ?held,
      emptied := ?emptied, belongs := ?belongs, keeps := ?keeps, inOrder := ?inOrder,
      first := ?first }
  case posted =>
    rw [postings_append, ← h.posted]
    rfl
  case opened =>
    rw [hopenings, ← h.opened]
    exact s.router.length_modify _
  case known =>
    rw [hopenings]
    exact h.known
  case target =>
    intro window other
    have hheld := s.router.isHeld_drop id other
    rw [isOpen_append_single, ← h.target, Router.target?_eq_some_iff, Router.target?_eq_some_iff]
    change s.router.windows.lookup window = some other ∧ (s.router.drop id).isHeld other = true ↔ _
    rw [hheld]
    simp only [Ends, reduceCtorEq, false_and, false_or, and_assoc, eq_comm (a := id)]
    exact and_congr_right fun _ ↦ and_comm
  case held =>
    intro other
    rw [hopenings, hgivenUp]
    refine (s.router.isHeld_drop _ _).trans ?_
    rw [h.held]
    constructor
    · rintro ⟨hne, hlt, hkept⟩
      exact ⟨hlt, fun hgone ↦ hgone.elim hkept fun hsame ↦ hne hsame.1⟩
    · rintro ⟨hlt, hkept⟩
      refine ⟨?_, hlt, fun hgone ↦ hkept (.inl hgone)⟩
      rintro rfl
      exact hkept (.inr ⟨rfl, hlt⟩)
  case emptied =>
    intro other hgone
    rw [hqueued]
    split
    · rfl
    · next hne =>
      exact h.emptied other ((hgivenUp.mp hgone).resolve_right fun hsame ↦ hne hsame.1)
  case belongs =>
    exact fun other number hnumber ↦
      haccepted.mpr (h.belongs other number ((hsub other).subset hnumber))
  case keeps =>
    intro number other hnumber hkept
    have hold := haccepted.mp hnumber
    have hne : other ≠ id := by
      rintro rfl
      exact hkept (hgivenUp.mpr (.inr ⟨rfl, hold.index_lt⟩))
    rw [contents, hqueued, if_neg hne]
    exact h.keeps number other hold fun hgone ↦ hkept (hgivenUp.mpr (.inl hgone))
  case inOrder =>
    exact fun other ↦ (h.inOrder other).sublist (hsub other)
  case first =>
    exact fun other number hnumber earlier hlt hearlier ↦
      h.first other number hnumber earlier hlt (haccepted.mp hearlier)

theorem step (h : Sound events s) (e : RoutingEvent) : Sound (events ++ [e]) (s.step e) := by
  cases e with
  | attach window => exact h.attach window
  | detach window => exact h.detach window
  | clear => exact h.clear
  | deliver window => exact h.deliver window
  | receive id => exact h.receive id
  | drain id => exact h.drain id
  | drop id => exact h.drop id

end Sound

theorem sound_start : Sound [] start where
  posted := rfl
  opened := rfl
  known := nofun
  target window id := ⟨nofun, fun ⟨before, after, hsplit, _⟩ ↦ by simp at hsplit⟩
  held id := ⟨nofun, fun hlt ↦ absurd hlt.1 (Nat.not_lt_zero _)⟩
  emptied _ _ := rfl
  belongs _ _ := nofun
  keeps _ _ hnumber := absurd hnumber.number_lt (Nat.not_lt_zero _)
  inOrder _ := .nil
  first _ _ := nofun

theorem sound_run (events : List RoutingEvent) : Sound events (run events) := by
  induction events using List.reverseRecOn with
  | nil => exact sound_start
  | append_singleton events e ih =>
    rw [run_append_single]
    exact ih.step e

theorem Accepted.unique {other : InboxId} (h : Accepted events number id)
    (hother : Accepted events number other) : id = other := by
  induction events using List.reverseRecOn with
  | nil => exact absurd h.number_lt (Nat.not_lt_zero _)
  | append_singleton events e ih =>
    rw [accepted_append_single] at h hother
    obtain h | ⟨window, rfl, hnew, hopen⟩ := h <;>
      obtain hother | ⟨window', he, hnew', hopen'⟩ := hother
    · exact ih h hother
    · exact absurd (hnew' ▸ h.number_lt) (Nat.lt_irrefl _)
    · exact absurd (hnew ▸ hother.number_lt) (Nat.lt_irrefl _)
    · cases he
      exact (sound_run events).isOpen_unique hopen hopen'

/-- **Deliveries are routed exactly.** Windows are attached, detached and cleared, things are
delivered to them, and what is in the inboxes is run or given up, all of it in any order. Then a
delivery is accepted if and only if an inbox is open for its window; it goes to this inbox and to no
other one; and each inbox runs what it has accepted in the order of posting, and nothing twice. -/
theorem run_routesExactly (events : List RoutingEvent) : RoutesExactly events (run events) := by
  have h := sound_run events
  have hattached (window : WindowKey) :
      (run events).router.isAttached window = true ↔ ∃ id, IsOpen events window id := by
    rw [Router.isAttached, Option.isSome_iff_exists]
    exact exists_congr fun id ↦ h.target window id
  refine ⟨hattached, ?_, fun _ _ _ ↦ Accepted.unique, h.belongs, h.keeps, h.inOrder, h.first,
    ?_, ?_⟩
  · intro window number
    rw [Router.deliver_fst]
    exact hattached window
  · intro id
    refine ⟨rfl, Function.update_self _ _ _, ?_, fun other hother ↦ ⟨?_, ?_⟩⟩
    · exact ((run events).router.queued_takeAll _ _).trans (if_pos rfl)
    · exact Function.update_of_ne hother _ _
    · exact ((run events).router.queued_takeAll _ _).trans (if_neg hother)
  · exact fun number hrefused id hran ↦
      hrefused id (h.belongs id number (List.mem_append_left _ hran))

end Routing

end CodeHints
