import ConsoleKeeper.World

/-!
# `ConsoleKeeper.Proofs.Act`: how actions run

An action is run on a world and gives an outcome and a world. The equations here say what each way
of making an action does when it is run, so that no later proof opens an action. `runOn_bind` is the
rule for two actions in a row: the second runs in the world that the first one left, unless the
first one failed.

`World.Later` is the order of worlds along a run as far as the journal shows it: events are only
added. It also says which phases were asked for in between. `World.Aside` is the same for actions
that touch neither the cluster nor the runner.
-/

set_option autoImplicit false

namespace ConsoleKeeper

namespace Act

variable {κ ρ α β : Type}

/-- An action given by its outcomes has these. -/
@[simp] theorem runOn_of (f : World κ ρ → Except Failure α × World κ ρ) (w : World κ ρ) :
    (of f).runOn w = f w := rfl

/-- A value leaves the world as it is. -/
@[simp] theorem runOn_pure (a : α) (w : World κ ρ) :
    (pure a : Act κ ρ α).runOn w = (.ok a, w) := rfl

/-- Two actions in a row. -/
theorem runOn_bind (m : Act κ ρ α) (f : α → Act κ ρ β) (w : World κ ρ) :
    (m >>= f).runOn w =
      match m.runOn w with
      | (.ok a, w') => (f a).runOn w'
      | (.error failure, w') => (.error failure, w') := by
  -- Opened up, both sides are the same distinction by how the first action ended.
  show ExceptT.bind m f w = _
  simp only [ExceptT.bind, ExceptT.mk, bind, StateT.bind, ExceptT.bindCont, runOn, ExceptT.run]
  rcases m w with ⟨_ | _, _⟩ <;> rfl

/-- A bind whose first action gives a value goes on with the second. -/
theorem runOn_bind_ok {m : Act κ ρ α} {a : α} {w w' : World κ ρ} (f : α → Act κ ρ β)
    (h : m.runOn w = (.ok a, w')) : (m >>= f).runOn w = (f a).runOn w' := by
  rw [runOn_bind, h]

/-- A bind whose first action fails is over. -/
theorem runOn_bind_error {m : Act κ ρ α} {failure : Failure} {w w' : World κ ρ}
    (f : α → Act κ ρ β) (h : m.runOn w = (.error failure, w')) :
    (m >>= f).runOn w = (.error failure, w') := by
  rw [runOn_bind, h]

/-- What is known of two actions in a row from how they ended. -/
theorem runOn_bind_cases {m : Act κ ρ α} {f : α → Act κ ρ β} {w w' : World κ ρ}
    {outcome : Except Failure β} (h : (m >>= f).runOn w = (outcome, w')) :
    (∃ a w₁, m.runOn w = (.ok a, w₁) ∧ (f a).runOn w₁ = (outcome, w')) ∨
      ∃ failure, m.runOn w = (.error failure, w') ∧ outcome = .error failure := by
  rw [runOn_bind] at h
  rcases hm : m.runOn w with ⟨failure | a, w₁⟩ <;> rw [hm] at h
  · cases h
    exact .inr ⟨failure, rfl, rfl⟩
  · exact .inl ⟨a, w₁, rfl, h⟩

/-- Two actions in a row gave a value: the first one did. -/
theorem of_runOn_bind_ok {m : Act κ ρ α} {f : α → Act κ ρ β} {w w' : World κ ρ} {b : β}
    (h : (m >>= f).runOn w = (.ok b, w')) :
    ∃ a w₁, m.runOn w = (.ok a, w₁) ∧ (f a).runOn w₁ = (.ok b, w') := by
  obtain hok | ⟨failure, -, hf⟩ := runOn_bind_cases h
  · exact hok
  · cases hf

/-- An action whose value is dropped. -/
theorem runOn_discard (m : Act κ ρ α) (w : World κ ρ) :
    (discard m).runOn w = ((m.runOn w).1.map fun _ => (), (m.runOn w).2) := by
  show (m >>= fun _ => pure ()).runOn w = _
  rw [runOn_bind]
  rcases m.runOn w with ⟨_ | _, _⟩ <;> rfl

/-- A failure leaves the world as it is. -/
@[simp] theorem runOn_fail (failure : Failure) (w : World κ ρ) :
    (fail failure : Act κ ρ α).runOn w = (.error failure, w) := rfl

/-- An outcome that is known leaves the world as it is. -/
@[simp] theorem runOn_lift (outcome : Except Failure α) (w : World κ ρ) :
    (lift outcome : Act κ ρ α).runOn w = (outcome, w) := rfl

/-- An outcome that is known gives its value to what follows. -/
theorem lift_ok_bind (a : α) (f : α → Act κ ρ β) : (lift (.ok a) >>= f) = f a := rfl

/-- A report stands last in the journal. -/
@[simp] theorem runOn_report (event : Event) (w : World κ ρ) :
    (report event).runOn w = (.ok (), { w with journal := w.journal.push event }) := rfl

/-- Reports one after the other stand in the journal in their order. -/
theorem runOn_forM_report (events : List Event) (w : World κ ρ) :
    (events.forM report : Act κ ρ Unit).runOn w =
      (.ok (), { w with journal := w.journal ++ events.toArray }) := by
  induction events generalizing w with
  | nil => simp [List.forM]
  | cons event rest ih =>
    show (report event >>= fun _ => rest.forM report).runOn w = _
    rw [runOn_bind_ok _ (runOn_report event w), ih]
    simp

/-- A look gives the world and changes nothing. -/
@[simp] theorem runOn_look (w : World κ ρ) : look.runOn w = (.ok w, w) := rfl

/-- A change is made, whatever it is. -/
@[simp] theorem runOn_change (f : World κ ρ → World κ ρ) (w : World κ ρ) :
    (change f).runOn w = (.ok (), f w) := rfl

/-- The cluster is read as it is. -/
@[simp] theorem runOn_cluster (w : World κ ρ) : cluster.runOn w = (.ok w.cluster, w) := rfl

/-- A change of the cluster changes nothing else. -/
@[simp] theorem runOn_changeCluster (f : κ → κ) (w : World κ ρ) :
    (changeCluster f).runOn w = (.ok (), { w with cluster := f w.cluster }) := rfl

/-- A draw takes what comes next from the source of random bytes. -/
@[simp] theorem runOn_draw (count : Nat) (w : World κ ρ) :
    (draw count).runOn w =
      (.ok (w.random.draw count).1, { w with random := (w.random.draw count).2 }) := rfl

/-- A change of files that the system accepts. -/
theorem runOn_changeFiles_ok {path : String} {f : Tree → Except Errno Tree} {w : World κ ρ}
    {files : Tree} (h : f w.files = .ok files) :
    (changeFiles path f).runOn w = (.ok (), { w with files }) := by
  simp only [changeFiles, runOn_of, h]

/-- A change of files that the system refuses changes nothing. -/
theorem runOn_changeFiles_error {path : String} {f : Tree → Except Errno Tree} {w : World κ ρ}
    {reason : Errno} (h : f w.files = .error reason) :
    (changeFiles path f).runOn w = (.error (.system (.about reason path)), w) := by
  simp only [changeFiles, runOn_of, h]

section Handlers

variable {ε : Type} {pick : Failure → Option ε} {action : Act κ ρ α} {w w' : World κ ρ}

/-- A handler has nothing to do for an action that gives a value. -/
theorem runOn_catching_ok {a : α} (h : action.runOn w = (.ok a, w')) :
    (catching pick action).runOn w = (.ok (.ok a), w') := by
  simp only [catching, runOn_of, h]

/-- A failure that the handler accepts becomes a value. -/
theorem runOn_catching_some {failure : Failure} {e : ε}
    (h : action.runOn w = (.error failure, w')) (he : pick failure = some e) :
    (catching pick action).runOn w = (.ok (.error e), w') := by
  simp only [catching, runOn_of, h, he]

/-- A failure that the handler does not accept stays one. -/
theorem runOn_catching_none {failure : Failure} (h : action.runOn w = (.error failure, w'))
    (hnone : pick failure = none) : (catching pick action).runOn w = (.error failure, w') := by
  simp only [catching, runOn_of, h, hnone]

/-- An action that gives a value is not replaced. -/
theorem runOn_rescuing_ok {rescue : ε → Act κ ρ α} {a : α} (h : action.runOn w = (.ok a, w')) :
    (rescuing pick action rescue).runOn w = (.ok a, w') := by
  simp only [rescuing, runOn_of, h]

/-- After a failure that the handler accepts, the replacement runs. -/
theorem runOn_rescuing_some {rescue : ε → Act κ ρ α} {failure : Failure} {e : ε}
    (h : action.runOn w = (.error failure, w')) (he : pick failure = some e) :
    (rescuing pick action rescue).runOn w = (rescue e).runOn w' := by
  simp only [rescuing, runOn_of, h, he]

/-- After a failure that the handler does not accept, nothing else runs. -/
theorem runOn_rescuing_none {rescue : ε → Act κ ρ α} {failure : Failure}
    (h : action.runOn w = (.error failure, w')) (hnone : pick failure = none) :
    (rescuing pick action rescue).runOn w = (.error failure, w') := by
  simp only [rescuing, runOn_of, h, hnone]

/-- A last action that gives a value leaves the outcome as it was. -/
theorem runOn_ensuring_ok {last : Act κ ρ Unit} {outcome : Except Failure α} {w'' : World κ ρ}
    (h : action.runOn w = (outcome, w')) (hlast : last.runOn w' = (.ok (), w'')) :
    (ensuring action last).runOn w = (outcome, w'') := by
  simp only [ensuring, runOn_of, h, hlast]

/-- A last action that fails ends with its own failure. -/
theorem runOn_ensuring_error {last : Act κ ρ Unit} {outcome : Except Failure α} {w'' : World κ ρ}
    {failure : Failure} (h : action.runOn w = (outcome, w'))
    (hlast : last.runOn w' = (.error failure, w'')) :
    (ensuring action last).runOn w = (.error failure, w'') := by
  simp only [ensuring, runOn_of, h, hlast]

end Handlers

end Act

/-- The phase that an event reports as asked for, whether or not it was written. -/
def Event.phase? (event : Event) : Option Phase :=
  event.status?.map (·.1.phase)

/-- Events that ask for no phase report no status. -/
theorem Event.filterMap_status?_eq_nil {events : List Event}
    (h : events.filterMap Event.phase? = []) : events.filterMap Event.status? = [] := by
  rw [List.filterMap_eq_nil_iff] at h ⊢
  exact fun event hmem => Option.map_eq_none_iff.mp (h event hmem)

namespace World

variable {κ ρ : Type}

/-- The journal of the second world is that of the first with events behind it, and these ask for
the given phases in that order. -/
def Later (w : World κ ρ) (phases : List Phase) (w' : World κ ρ) : Prop :=
  ∃ events : List Event,
    w'.journal.toList = w.journal.toList ++ events ∧ events.filterMap Event.phase? = phases

/-- A world with the same journal is no further. -/
theorem Later.of_eq {w w' : World κ ρ} (h : w'.journal = w.journal) : Later w [] w' :=
  ⟨[], by simp [h], rfl⟩

/-- A world is no later than itself, and nothing was asked for in between. -/
theorem Later.refl (w : World κ ρ) : Later w [] w :=
  .of_eq rfl

/-- The phases of two stretches are asked for one stretch after the other. -/
theorem Later.trans {w w' w'' : World κ ρ} {phases more : List Phase} (h : Later w phases w')
    (h' : Later w' more w'') : Later w (phases ++ more) w'' := by
  obtain ⟨events, he, rfl⟩ := h
  obtain ⟨events', he', rfl⟩ := h'
  exact ⟨events ++ events', by rw [he', he, List.append_assoc], List.filterMap_append⟩

/-- A report asks for the phase of its event, if that has one. -/
theorem Later.report (w : World κ ρ) (event : Event) :
    Later w event.phase?.toList { w with journal := w.journal.push event } := by
  refine ⟨[event], by simp, ?_⟩
  cases h : event.phase? <;> simp [h]

/-- The journal of the second world is that of the first with events behind it. Just one of these is
about a status, and it reports the note, whether or not it was written. -/
def Asked (w : World κ ρ) (note : StatusNote) (w' : World κ ρ) : Prop :=
  ∃ (events : List Event) (written : Bool),
    w'.journal.toList = w.journal.toList ++ events ∧
      events.filterMap Event.status? = [(note, written)]

/-- A note asks for its phase. -/
theorem Asked.later {w w' : World κ ρ} {note : StatusNote} (h : Asked w note w') :
    Later w [note.phase] w' := by
  obtain ⟨events, written, he, hnotes⟩ := h
  refine ⟨events, he, ?_⟩
  have hphases := congrArg (List.map (·.1.phase)) hnotes
  rwa [List.map_filterMap] at hphases

/-- A report of a note, after events that ask for no phase. -/
theorem Later.asked {w w' : World κ ρ} {event : Event} {note : StatusNote} {written : Bool}
    (h : Later w [] w') (hevent : event.status? = some (note, written)) :
    Asked w note { w' with journal := w'.journal.push event } := by
  obtain ⟨events, he, hphases⟩ := h
  refine ⟨events ++ [event], written, by simp [he], ?_⟩
  rw [List.filterMap_append, Event.filterMap_status?_eq_nil hphases, List.nil_append,
    List.filterMap_cons_some hevent]
  rfl

/-- Events that ask for no phase may come first. -/
theorem Asked.after {w w' w'' : World κ ρ} {note : StatusNote} (h : Later w [] w')
    (h' : Asked w' note w'') : Asked w note w'' := by
  obtain ⟨events, he, hphases⟩ := h
  obtain ⟨more, written, he', hnotes⟩ := h'
  exact ⟨events ++ more, written, by rw [he', he, List.append_assoc],
    by rw [List.filterMap_append, Event.filterMap_status?_eq_nil hphases, List.nil_append, hnotes]⟩

/-- The second world has the cluster and the runner of the first, and no phase was asked for. -/
structure Aside (w w' : World κ ρ) : Prop where
  cluster : w'.cluster = w.cluster
  runner : w'.runner = w.runner
  later : Later w [] w'

/-- Nothing was done to a world between itself and itself. -/
theorem Aside.refl (w : World κ ρ) : Aside w w :=
  ⟨rfl, rfl, .refl w⟩

/-- What is done aside twice is done aside. -/
theorem Aside.trans {w w' w'' : World κ ρ} (h : Aside w w') (h' : Aside w' w'') : Aside w w'' :=
  ⟨h'.cluster.trans h.cluster, h'.runner.trans h.runner, h.later.trans h'.later⟩

/-- A report of an event without a phase. -/
theorem Aside.report (w : World κ ρ) {event : Event} (h : event.phase? = none) :
    Aside w { w with journal := w.journal.push event } :=
  ⟨rfl, rfl, by simpa [h] using Later.report w event⟩

end World

namespace Act

variable {κ ρ α β : Type} {good : κ → Prop} {allowed : Failure → Prop}

/-- Whenever the cluster is good before an action, it is good after it; the action asks for no
phase; and it ends with allowed failures only. -/
def Sound (good : κ → Prop) (allowed : Failure → Prop) (action : Act κ ρ α) : Prop :=
  ∀ ⦃w : World κ ρ⦄ ⦃outcome : Except Failure α⦄ ⦃w' : World κ ρ⦄,
    action.runOn w = (outcome, w') → good w.cluster →
      good w'.cluster ∧ World.Later w [] w' ∧ ∀ failure, outcome = .error failure → allowed failure

namespace Sound

/-- A value is sound. -/
theorem pure (a : α) : Sound good allowed (Pure.pure a : Act κ ρ α) := by
  rintro w _ _ ⟨⟩ h
  exact ⟨h, .refl w, fun _ hf => by cases hf⟩

/-- A failure is sound if it is allowed. -/
theorem fail {failure : Failure} (hallowed : allowed failure) :
    Sound good allowed (Act.fail failure : Act κ ρ α) := by
  rintro w _ _ ⟨⟩ h
  refine ⟨h, .refl w, fun _ hf => ?_⟩
  cases hf
  exact hallowed

/-- A report is sound unless it asks for a phase. -/
theorem report {event : Event} (he : event.phase? = none) :
    Sound good allowed (Act.report event : Act κ ρ Unit) := by
  rintro w _ _ ⟨⟩ h
  exact ⟨h, (World.Aside.report w he).later, fun _ hf => by cases hf⟩

/-- Reading the cluster is sound. -/
theorem cluster : Sound good allowed (Act.cluster : Act κ ρ κ) := by
  rintro w _ _ ⟨⟩ h
  exact ⟨h, .refl w, fun _ hf => by cases hf⟩

/-- A change of the cluster is sound if it keeps what is good. -/
theorem changeCluster {f : κ → κ} (hf : ∀ c, good c → good (f c)) :
    Sound good allowed (Act.changeCluster f : Act κ ρ Unit) := by
  rintro w _ _ ⟨⟩ h
  exact ⟨hf _ h, .of_eq rfl, fun _ he => by cases he⟩

/-- Reading the runner is sound. -/
theorem runner : Sound good allowed (Act.runner : Act κ ρ ρ) := by
  rintro w _ _ ⟨⟩ h
  exact ⟨h, .refl w, fun _ hf => by cases hf⟩

/-- A look is sound. -/
theorem look : Sound good allowed (Act.look : Act κ ρ (World κ ρ)) := by
  rintro w _ _ ⟨⟩ h
  exact ⟨h, .refl w, fun _ hf => by cases hf⟩

/-- What a runner knows is no part of the cluster. -/
theorem changeRunner {f : ρ → ρ} :
    Sound good allowed (Act.changeRunner f : Act κ ρ Unit) := by
  rintro w _ _ ⟨⟩ h
  exact ⟨h, .of_eq rfl, fun _ he => by cases he⟩

/-- An outcome that is known is sound if it is no failure but an allowed one. -/
theorem lift {outcome : Except Failure α}
    (h : ∀ failure, outcome = .error failure → allowed failure) :
    Sound good allowed (Act.lift outcome : Act κ ρ α) := by
  rintro w _ _ ⟨⟩ hgood
  exact ⟨hgood, .refl w, h⟩

/-- Files are no part of the cluster. -/
theorem changeFiles {path : String} {f : Tree → Except Errno Tree}
    (h : ∀ reason, allowed (.system (.about reason path))) :
    Sound good allowed (Act.changeFiles path f : Act κ ρ Unit) := by
  intro w outcome w' hrun hgood
  cases hf : f w.files with
  | ok files =>
    rw [runOn_changeFiles_ok hf] at hrun
    cases hrun
    exact ⟨hgood, .of_eq rfl, fun _ he => by cases he⟩
  | error reason =>
    rw [runOn_changeFiles_error hf] at hrun
    cases hrun
    refine ⟨hgood, .refl w, fun _ he => ?_⟩
    cases he
    exact h reason

/-- Two sound actions in a row. -/
theorem bind {m : Act κ ρ α} {f : α → Act κ ρ β} (hm : Sound good allowed m)
    (hf : ∀ a, Sound good allowed (f a)) : Sound good allowed (m >>= f) := by
  intro w outcome w' hrun h
  obtain ⟨a, w₁, hrun₁, hrun₂⟩ | ⟨failure, hrun₁, rfl⟩ := runOn_bind_cases hrun
  · obtain ⟨hgood, hlater, -⟩ := hm hrun₁ h
    obtain ⟨hgood', hlater', hfail⟩ := hf a hrun₂ hgood
    exact ⟨hgood', hlater.trans hlater', hfail⟩
  · obtain ⟨hgood, hlater, hfail⟩ := hm hrun₁ h
    refine ⟨hgood, hlater, fun _ he => ?_⟩
    cases he
    exact hfail failure rfl

/-- An action is as sound without its value. -/
theorem discard {action : Act κ ρ α} (h : Sound good allowed action) :
    Sound good allowed (Functor.discard action : Act κ ρ Unit) :=
  h.bind fun _ => .pure ()

/-- A row of sound actions. -/
theorem forM {items : List β} {f : β → Act κ ρ Unit}
    (h : ∀ b ∈ items, Sound good allowed (f b)) : Sound good allowed (items.forM f) := by
  induction items with
  | nil => exact .pure ()
  | cons b items ih =>
    exact (h b List.mem_cons_self).bind fun _ => ih fun b hb => h b (List.mem_cons_of_mem _ hb)

end Sound

/-- The action gives a value, and the value and the world after it are as required. -/
def Gives (action : Act κ ρ α) (w : World κ ρ) (post : α → World κ ρ → Prop) : Prop :=
  ∃ a w', action.runOn w = (.ok a, w') ∧ post a w'

namespace Gives

variable {action : Act κ ρ α} {w : World κ ρ} {post : α → World κ ρ → Prop}
  {post' : β → World κ ρ → Prop}

/-- A value is given in the world as it is. -/
theorem pure {a : α} (h : post a w) : Gives (Pure.pure a : Act κ ρ α) w post :=
  ⟨a, w, rfl, h⟩

/-- Two actions in a row that each give a value. -/
theorem bind {f : α → Act κ ρ β} (h : Gives action w post)
    (hf : ∀ a w', post a w' → Gives (f a) w' post') : Gives (action >>= f) w post' := by
  obtain ⟨a, w', hrun, ha⟩ := h
  obtain ⟨b, w'', hrun', hb⟩ := hf a w' ha
  exact ⟨b, w'', by rw [runOn_bind_ok _ hrun, hrun'], hb⟩

/-- An action that goes on after one whose run is known. -/
theorem after {f : α → Act κ ρ β} {a : α} {w' : World κ ρ} (h : action.runOn w = (.ok a, w'))
    (hf : Gives (f a) w' post') : Gives (action >>= f) w post' := by
  obtain ⟨b, w'', hrun, hb⟩ := hf
  exact ⟨b, w'', by rw [runOn_bind_ok _ h, hrun], hb⟩

/-- An action that runs as another one does. -/
theorem of_eq {other : Act κ ρ α} {w' : World κ ρ}
    (h : action.runOn w = other.runOn w') (hother : Gives other w' post) : Gives action w post := by
  obtain ⟨a, w'', hrun, ha⟩ := hother
  exact ⟨a, w'', h.trans hrun, ha⟩

/-- Less may be required. -/
theorem mono {more : α → World κ ρ → Prop} (h : Gives action w more)
    (himp : ∀ a w', more a w' → post a w') : Gives action w post := by
  obtain ⟨a, w', hrun, ha⟩ := h
  exact ⟨a, w', hrun, himp a w' ha⟩

/-- An action whose value is dropped. -/
theorem discard (h : Gives action w post) :
    Gives (Functor.discard action : Act κ ρ Unit) w fun _ w' => ∃ a, post a w' := by
  obtain ⟨a, w', hrun, ha⟩ := h
  exact ⟨(), w', by rw [runOn_discard, hrun]; rfl, a, ha⟩

/-- A handler has nothing to do. -/
theorem catching {ε : Type} {pick : Failure → Option ε} (h : Gives action w post) :
    Gives (Act.catching pick action) w fun outcome w' => ∃ a, outcome = .ok a ∧ post a w' := by
  obtain ⟨a, w', hrun, ha⟩ := h
  exact ⟨.ok a, w', runOn_catching_ok hrun, a, rfl, ha⟩

end Gives

end Act

end ConsoleKeeper
