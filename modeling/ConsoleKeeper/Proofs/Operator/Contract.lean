import ConsoleKeeper.Operator.Watch
import ConsoleKeeper.Proofs.Cluster.Server
import ConsoleKeeper.Proofs.Operator.Course

/-!
# `ConsoleKeeper.Proofs.Operator.Contract`: passes over an interface

The calls over an interface keep their contract as far as the documents can be read (`contract`).
Here this is carried to a pass and to the watch that calls it.

* If everything that the interface gives can be read, and every resource can be written back
  (`Serves`), then a pass takes one of its courses and ends with a result or an error of the
  operator, and the watch ends or is asked to come back. A first reading that fails is reported as
  an error, unless it says that the object is absent.
* A first reading that does not fit ends the pass on the spot. No status is asked for, and the
  watch ends with the failure of the reading.

`pass_over_interface` puts both together with the contract of the calls. A version that is a number
does not fit, so not every pass keeps to the contract (`numberedServer_breaks_contract`).
-/

set_option autoImplicit false

namespace ConsoleKeeper

open World (Later)

variable {κ ρ : Type} {good : κ → Prop} {w w' : World κ ρ}

/-- Events on the side are no change of the cluster. -/
theorem World.Told.cluster (h : w.Told w') : w'.cluster = w.cluster := by
  cases h <;> rfl

/-- A world with one more event on the side is a later one. -/
theorem World.Told.later (h : w.Told w') : Later w [] w' := by
  cases h with
  | nothing => exact .refl w
  | @event event he =>
    have hphase : event.phase? = none := by rw [Event.phase?, he]; rfl
    exact (World.Aside.report w hphase).later

/-- A call of an interface leaves a good cluster good and asks for no status. It is turned down, or
it gives a document that fits. -/
def Act.Replies (good : κ → Prop) (fits : Data → Prop) (ask : Act κ ρ Data) : Prop :=
  ∀ ⦃w : World κ ρ⦄ ⦃outcome : Except Failure Data⦄ ⦃w' : World κ ρ⦄,
    ask.runOn w = (outcome, w') → good w.cluster →
      good w'.cluster ∧ Later w [] w' ∧
        ∃ reply, outcome = Interface.outcomeOf reply ∧ ∀ document, reply = .ok document →
          fits document

namespace Interface

variable {calls : Interface κ ρ} {settings : ClusterSettings} {fits : Data → Prop}
  {ask : Act κ ρ Data} {object : ObjectName}

/-- An answer that fits is read, and everything else is a cluster error. -/
theorem read_sound {α : Type} {read : Data → Except Failure α} (h : ask.Replies good fits)
    (hread : ∀ document, fits document → ∃ a, read document = .ok a) :
    Act.Sound good Failure.IsCluster (do
      let answer ← call object ask
      Act.lift (read answer)) := by
  intro w outcome w' hrun hw
  -- A call fails with a refusal, or gives a document that fits; a document that fits can be
  -- read.
  rcases hask : ask.runOn w with ⟨x, w₁⟩
  obtain ⟨hgood, hlater, reply, rfl, hfits⟩ := h hask hw
  cases reply with
  | ok document =>
    obtain ⟨a, ha⟩ := hread document (hfits document rfl)
    rw [read_run_ok object read hask, ha] at hrun
    cases hrun
    exact ⟨hgood, hlater, fun _ hf => by cases hf⟩
  | error refusal =>
    obtain ⟨w₂, hcall, htold⟩ := read_run_refused object read hask
    rw [hcall] at hrun
    cases hrun
    refine ⟨htold.cluster ▸ hgood, hlater.trans htold.later, fun _ hf => ?_⟩
    cases hf
    exact ⟨_, rfl, refusal.isCluster_error object⟩

/-- A document from which a resource is read that can be written back. -/
def DescribesWebUI (document : Data) : Prop :=
  ∃ object resource, document = .object object ∧ WebUI.Describes object resource

/-- Whatever an interface gives can be read, and the resources among it can be written back. -/
structure Serves (calls : Interface κ ρ) (settings : ClusterSettings) (good : κ → Prop) :
    Prop where
  getObject : ∀ id : ResourceId,
    (calls.getObject settings.group settings.version id.ns settings.plural id.name).Replies good
      DescribesWebUI
  replaceObject : ∀ object resource status, WebUI.Describes object resource →
    (calls.replaceObject settings.group settings.version resource.id.ns settings.plural
      resource.id.name (.object (WebUI.written { resource with status }))).Replies good
        fun document => ∃ resource, WebUI.ofObject document = .ok resource
  readDeployment : ∀ ns name, (calls.readDeployment name ns).Replies good
    fun document => ∃ deployment, Deployment.ofInterface document = .ok deployment
  patchDeployment : ∀ deployment : Deployment,
    (calls.patchDeployment deployment.name deployment.ns deployment.ownersPatch).Replies good
      fun document => ∃ deployment, Deployment.ofInterface document = .ok deployment

/-- An object that describes a resource can be read as one. -/
theorem read_describesWebUI (document : Data) (h : DescribesWebUI document) :
    ∃ resource, WebUI.ofObject document = .ok resource := by
  obtain ⟨object, resource, rfl, hdescribes⟩ := h
  exact ⟨resource, hdescribes.read⟩

/-- A resource that is read is described by its object. -/
theorem describes_of_getWebUI {id : ResourceId} {resource : WebUI}
    (h : (calls.getObject settings.group settings.version id.ns settings.plural
      id.name).Replies good DescribesWebUI)
    (hrun : (calls.getWebUI settings id).runOn w = (.ok resource, w')) (hw : good w.cluster) :
    ∃ object, WebUI.Describes object resource := by
  rcases hask : (calls.getObject settings.group settings.version id.ns settings.plural
    id.name).runOn w with ⟨x, w₁⟩
  obtain ⟨-, -, reply, rfl, hfits⟩ := h hask hw
  rw [getWebUI] at hrun
  cases reply with
  | error refusal =>
    obtain ⟨w₂, hrefused, -⟩ :=
      read_run_refused ⟨settings.kind, id.ns, id.name⟩ WebUI.ofObject hask
    rw [hrefused] at hrun
    cases hrun
  | ok document =>
    obtain ⟨object, described, rfl, hdescribes⟩ := hfits _ rfl
    rw [read_run_ok ⟨settings.kind, id.ns, id.name⟩ WebUI.ofObject hask, hdescribes.read] at hrun
    cases hrun
    exact ⟨object, hdescribes⟩

end Interface

namespace Operator

variable {op : Operator κ ρ} {id : ResourceId}

/-- Over an interface that serves, an operator is attentive. -/
theorem attentive_of_serves {calls : Interface κ ρ}
    (hcluster : op.cluster = calls.cluster op.settings.cluster)
    (h : calls.Serves op.settings.cluster good)
    (hrunner : ∀ command, (op.runner command).Sound good Failure.IsOperator)
    (hcredentials : op.credentials.Sound good Failure.IsOperator)
    (hartifacts : Artifacts.Usable op.settings.artifacts) : op.Attentive good where
  getWebUI id := by
    rw [hcluster]
    exact Interface.read_sound (h.getObject id) Interface.read_describesWebUI
  getDeployment ns name := by
    rw [hcluster]
    exact Interface.read_sound (h.readDeployment ns name) fun _ hread => hread
  updateOwners deployment := by
    rw [hcluster]
    exact Interface.read_sound (h.patchDeployment deployment) fun _ hread => hread
  setStatus id phase message w hw := by
    -- Only what was read is written, and what was read is described by its object.
    refine setStatus_run (fun resource => ∃ object, WebUI.Describes object resource) id phase
      message ?_ ?_ ?_ hw
    · rw [hcluster]
      exact Interface.read_sound (h.getObject id) Interface.read_describesWebUI
    · intro w resource w' hrun hw
      rw [hcluster] at hrun
      exact Interface.describes_of_getWebUI (h.getObject id) hrun hw
    · rintro resource status ⟨object, hdescribes⟩
      rw [hcluster]
      show (calls.updateWebUI op.settings.cluster { resource with status }).Sound _ _
      rw [Interface.updateWebUI, hdescribes.toObject status]
      exact Interface.read_sound (h.replaceObject object resource status hdescribes)
        fun _ hread => hread
  runner := hrunner
  credentials := hcredentials
  artifacts := hartifacts

/-! ### The first readings -/

/-- The world in which a pass begins to read. -/
def passBegun (id : ResourceId) (w : World κ ρ) : World κ ρ :=
  { w with journal := w.journal.push (.passStarted id) }

/-- The report that a pass begins. -/
theorem report_passBegun (id : ResourceId) (w : World κ ρ) :
    (Act.report (.passStarted id)).runOn w = (.ok (), passBegun id w) := rfl

/-- One of the two readings fails with which a pass begins: that of the resource, or the one of the
deployment after it. -/
inductive ReadFails (op : Operator κ ρ) (id : ResourceId) (w : World κ ρ) (failure : Failure)
    (w' : World κ ρ) : Prop where
  | resource (h : (op.cluster.getWebUI id).runOn (passBegun id w) = (.error failure, w'))
  | deployment {resource : WebUI} {w₁ : World κ ρ}
      (h : (op.cluster.getWebUI id).runOn (passBegun id w) = (.ok resource, w₁))
      (h' : (op.cluster.getDeployment id.ns op.settings.cluster.deploymentName).runOn w₁ =
        (.error failure, w'))

/-- A failure that no handler knows ends a pass on the spot. -/
theorem pass_run_of_uncaught {failure : Failure} (h : ReadFails op id w failure w')
    (hpick : failure.cluster? = none) : (op.pass id).runOn w = (.error failure, w') := by
  rw [pass, Act.runOn_bind_ok _ (report_passBegun id w)]
  cases h with
  | resource h => exact Act.runOn_bind_error _ (Act.runOn_catching_none h hpick)
  | deployment h h' =>
    rw [Act.runOn_bind_ok _ (Act.runOn_catching_ok h)]
    exact Act.runOn_bind_error _ (Act.runOn_catching_none h' hpick)

/-- A first reading that fails is reported as an error, unless the object is absent, and the pass
ends with what it failed with. -/
theorem pass_run_of_readFails (hs : op.Attentive good) (hw : good w.cluster) {e : OperatorError}
    (h : ReadFails op id w (.operator e) w') (habsent : e.kind ≠ .notFound) :
    ∃ w'', (op.pass id).runOn w = (.error (.operator e), w'') ∧ Later w [.otherError] w'' := by
  have h₁ : Reached good w [] (passBegun id w) := Reached.report ⟨hw, .refl w⟩ (.passStarted id) rfl
  -- Both readings are reported in the same way, apart from the message.
  have reported : ∀ {w₂ : World κ ρ} (event : Event) (message : String), Reached good w [] w₂ →
      event.phase? = none → ∃ w'', (do
        Act.report event
        op.setStatus id .otherError message
        Act.fail (.operator e) : Act κ ρ PassResult).runOn w₂ = (.error (.operator e), w'') ∧
          Later w [.otherError] w'' := by
    intro w₂ event message h₂ he
    have h₃ := h₂.report event he
    obtain ⟨w₄, hstatus, h₄⟩ := hs.setStatus id .otherError message _ h₃.good
    refine ⟨w₄, ?_, (h₃.trans h₄).later⟩
    rw [Act.runOn_bind_ok _ (Act.runOn_report _ w₂), Act.runOn_bind_ok _ hstatus, Act.runOn_fail]
  rw [pass, Act.runOn_bind_ok _ (report_passBegun id w)]
  cases h with
  | resource h =>
    obtain ⟨a, w₂, hrun, -⟩ | ⟨e', w₂, hrun, -, hcaught, h₂⟩ :=
      catching_cluster (hs.getWebUI id) h₁.good <;> rw [h] at hrun <;> cases hrun
    rw [Act.runOn_bind_ok _ hcaught]
    simp only [saysAbsent, habsent, decide_false, Bool.false_eq_true, if_false]
    exact reported _ _ (h₁.trans h₂) rfl
  | @deployment resource w₁ h h' =>
    have h₂ := h₁.trans (reached_of_sound (hs.getWebUI id) h h₁.good)
    rw [Act.runOn_bind_ok _ (Act.runOn_catching_ok h)]
    dsimp only
    rw [settleResource]
    obtain ⟨a, w₃, hrun, -⟩ | ⟨e', w₃, hrun, -, hcaught, h₃⟩ :=
      catching_cluster (hs.getDeployment id.ns op.settings.cluster.deploymentName) h₂.good <;>
      rw [h'] at hrun <;> cases hrun
    rw [Act.runOn_bind_ok _ hcaught]
    simp only [saysAbsent, habsent, decide_false, Bool.false_eq_true, if_false]
    exact reported _ _ (h₂.trans h₃) rfl

/-! ### The watch -/

/-- A failure that is no error of the operator is passed on by the watch. -/
theorem attend_run_of_uncaught {failure : Failure}
    (h : (op.pass id).runOn w = (.error failure, w')) (hpick : failure.operator? = none) :
    (Watch.attend op id).runOn w = (.error failure, w') := by
  have hdiscard : (discard (op.pass id)).runOn w = (.error failure, w') := by
    rw [Act.runOn_discard, h]
    rfl
  exact Act.runOn_rescuing_none hdiscard hpick

/-- After a pass that ends with a result or an error of the operator, the watch ends or is asked to
come back. -/
theorem attend_ends
    (h : ∀ failure, ((op.pass id).runOn w).1 = .error failure → failure.IsOperator) :
    ((Watch.attend op id).runOn w).1 = .ok () ∨
      ∃ e, ((Watch.attend op id).runOn w).1 = .error (Watch.retry op.settings e) := by
  -- `attend` sees of a pass only whether it failed, hence `discard`.
  rcases hpass : (op.pass id).runOn w with ⟨failure | result, w'⟩
  · rw [hpass] at h
    obtain ⟨e, rfl⟩ := h failure rfl
    have hdiscard : (discard (op.pass id)).runOn w = (.error (.operator e), w') := by
      rw [Act.runOn_discard, hpass]
      rfl
    refine .inr ⟨e, ?_⟩
    have hpick : Failure.operator? (.operator e) = some e := rfl
    rw [Watch.attend, Act.runOn_rescuing_some hdiscard hpick]
    rfl
  · have hdiscard : (discard (op.pass id)).runOn w = (.ok (), w') := by
      rw [Act.runOn_discard, hpass]
      rfl
    rw [Watch.attend, Act.runOn_rescuing_ok hdiscard]
    exact .inl rfl

/-! ### The contract of a pass -/

/-- What a pass owes. It takes one of its courses and ends with a result or an error of the
operator. A first reading that fails is reported as an error, unless it says that the object is
absent, and the pass ends with its failure. The watch that calls the pass ends, or it is asked to
come back. -/
structure PassContract (op : Operator κ ρ) (id : ResourceId) (w : World κ ρ) : Prop where
  course : ∃ phases, Later w phases ((op.pass id).runOn w).2 ∧
    Course op id w ((op.pass id).runOn w).2 phases ((op.pass id).runOn w).1
  operator : ∀ failure, ((op.pass id).runOn w).1 = .error failure → failure.IsOperator
  unread : ∀ failure w', ReadFails op id w failure w' →
    (∀ e, failure = .operator e → e.kind ≠ .notFound) →
      ((op.pass id).runOn w).1 = .error failure ∧ Later w [.otherError] ((op.pass id).runOn w).2
  watch : ((Watch.attend op id).runOn w).1 = .ok () ∨
    ∃ e, ((Watch.attend op id).runOn w).1 = .error (Watch.retry op.settings e)

/-- The first readings of an attentive operator fail with errors of the operator only. -/
theorem isOperator_of_readFails (hs : op.Attentive good) (hw : good w.cluster) {failure : Failure}
    (h : ReadFails op id w failure w') : failure.IsOperator := by
  have h₁ : good (passBegun id w).cluster := hw
  cases h with
  | resource h =>
    obtain ⟨e, he, -⟩ := allowed_of_sound (hs.getWebUI id) h h₁
    exact ⟨e, he⟩
  | deployment h h' =>
    have h₂ := reached_of_sound (hs.getWebUI id) h h₁
    obtain ⟨e, he, -⟩ := allowed_of_sound (hs.getDeployment _ _) h' h₂.good
    exact ⟨e, he⟩

/-- An attentive operator keeps the contract of a pass. -/
theorem passContract (hs : op.Attentive good) (id : ResourceId) (hw : good w.cluster) :
    PassContract op id w := by
  obtain ⟨htakes, hoperator⟩ : Ends op id w (op.pass id) w := pass_ends hs hw
  refine ⟨htakes, hoperator, fun failure w' h habsent => ?_, attend_ends hoperator⟩
  obtain ⟨e, rfl⟩ := isOperator_of_readFails hs hw h
  obtain ⟨w'', hrun, hlater⟩ := pass_run_of_readFails hs hw h (habsent e rfl)
  rw [hrun]
  exact ⟨rfl, hlater⟩

/-- The calls over an interface keep their contract exactly as far as what the interface gives can
be read. Where all of it can be read and written back, each pass keeps its contract too. Where a
first reading does not fit, the pass and the watch end with its failure on the spot. -/
theorem pass_over_interface {κ ρ : Type} (calls : Interface κ ρ) (settings : Settings)
    (runner : Runner κ ρ) (credentials : Act κ ρ Credentials) (good : κ → Prop)
    (hrunner : ∀ command, (runner command).Sound good Failure.IsOperator)
    (hcredentials : credentials.Sound good Failure.IsOperator)
    (hartifacts : Artifacts.Usable settings.artifacts) :
    let op : Operator κ ρ :=
      { settings, cluster := calls.cluster settings.cluster, runner, credentials }
    (∀ w, calls.Contract settings.cluster w) ∧
      (calls.Serves settings.cluster good → ∀ id w, good w.cluster → PassContract op id w) ∧
      ∀ id w failure w', ReadFails op id w failure w' → failure.IsMisfit →
        (op.pass id).runOn w = (.error failure, w') ∧
          (Watch.attend op id).runOn w = (.error failure, w') := by
  intro op
  -- The first part holds of any calls. The second needs documents that fit, and the third says
  -- what happens where one does not.
  refine ⟨fun w => calls.contract settings.cluster w, fun hserves id w hw => ?_,
    fun id w failure w' h hmisfit => ?_⟩
  · have hs : op.Attentive good :=
      attentive_of_serves rfl hserves hrunner hcredentials hartifacts
    exact passContract hs id hw
  · have hpass := pass_run_of_uncaught h hmisfit.cluster?
    exact ⟨hpass, attend_run_of_uncaught hpass hmisfit.operator?⟩

end Operator

/-! ### A server whose documents fit -/

namespace Server

/-- Everything that a server stores can be read, and its resources can be written back. -/
structure Fits (settings : ClusterSettings) (server : Server) : Prop where
  objects : ∀ id document, server.objects.get? (settings.keyOf id) = some document →
    Interface.DescribesWebUI document
  deployments : ∀ key document, server.deployments.get? key = some document →
    ∃ deployment, Deployment.ofInterface document = .ok deployment

variable {settings : ClusterSettings} {server : Server}

/-- A request that is asked changes no document. -/
theorem Fits.asked (h : server.Fits settings) (operation : Operation) :
    (server.asked operation).Fits settings :=
  ⟨h.objects, h.deployments⟩

/-- A document that describes a resource fits where one is kept. -/
theorem Fits.putObject (h : server.Fits settings) (key : ObjectKey) {document : Data}
    (hdocument : Interface.DescribesWebUI document) : (server.putObject key document).Fits settings
    where
  objects id other hother := by
    rw [Server.putObject, Table.get?_put] at hother
    split at hother
    · cases hother
      exact hdocument
    · exact h.objects id other hother
  deployments := h.deployments

/-- A document that can be read as a deployment fits where one is kept. -/
theorem Fits.putDeployment (h : server.Fits settings) (key : DeploymentKey) {document : Data}
    (hdocument : ∃ deployment, Deployment.ofInterface document = .ok deployment) :
    (server.putDeployment key document).Fits settings where
  objects := h.objects
  deployments k other hother := by
    rw [Server.putDeployment, Table.get?_put] at hother
    split at hother
    · cases hother
      exact hdocument
    · exact h.deployments k other hother

/-- A call that finds and keeps what fits. -/
theorem serve_replies {operation : Operation} {find : Server → Except Interface.Refusal Data}
    {make : Data → Data} {keep : Data → Server → Server} {fits : Data → Prop}
    (h : ∀ server : Server, server.Fits settings → ∀ document, find server = .ok document →
      fits (make document) ∧ (keep (make document) (server.asked operation)).Fits settings) :
    (serve operation find make keep : Act Server ρ Data).Replies (Fits settings) fits := by
  -- The call is noted in either case; only one that is answered changes a document.
  intro w outcome w' hrun hw
  cases hreply : w.cluster.reply operation (find w.cluster) with
  | ok document =>
    rw [serve_run_ok hreply] at hrun
    cases hrun
    obtain ⟨hfits, hkeep⟩ := h w.cluster hw document (of_reply_eq_ok hreply)
    refine ⟨hkeep, .of_eq rfl, .ok (make document), rfl, ?_⟩
    rintro _ ⟨⟩
    exact hfits
  | error refusal =>
    rw [serve_run_refused hreply] at hrun
    cases hrun
    refine ⟨hw.asked operation, .of_eq rfl, .error refusal, rfl, ?_⟩
    rintro _ ⟨⟩

/-- A server goes on storing what fits, and gives nothing else. -/
theorem serves (settings : ClusterSettings) :
    (interface : Interface Server ρ).Serves settings (Fits settings) where
  getObject id := by
    rw [interface_getObject]
    exact serve_replies fun server hserver document hfound =>
      ⟨hserver.objects id document (found_eq_ok_iff.mp hfound), hserver.asked _⟩
  replaceObject object resource status hdescribes := by
    have hbody : Interface.DescribesWebUI (.object (WebUI.written { resource with status })) :=
      ⟨_, _, rfl, hdescribes.written status⟩
    rw [interface_replaceObject]
    exact serve_replies fun server hserver _ _ =>
      ⟨Interface.read_describesWebUI _ hbody, (hserver.asked _).putObject _ hbody⟩
  readDeployment ns name := by
    rw [interface_readDeployment]
    exact serve_replies fun server hserver document hfound =>
      ⟨hserver.deployments (ns, name) document (found_eq_ok_iff.mp hfound), hserver.asked _⟩
  patchDeployment deployment := by
    rw [interface_patchDeployment]
    refine serve_replies fun server hserver document hfound => ?_
    obtain ⟨current, hcurrent⟩ := hserver.deployments _ document (found_eq_ok_iff.mp hfound)
    have hbody := ofInterface_patched hcurrent deployment
    exact ⟨⟨_, hbody⟩, (hserver.asked _).putDeployment _ ⟨_, hbody⟩⟩

end Server

namespace Operator

/-- An operator over a server, with commands that fail. -/
def overServer : Operator Server Unit where
  settings := {}
  cluster := Server.interface.cluster ({} : Settings).cluster
  runner := fun command => Act.fail (.operator (exitError command 1))
  credentials := pure default

/-- A world with a server. -/
def served (server : Server) : World Server Unit :=
  { cluster := server, runner := (), files := ⟨[], []⟩ }

/-- A server with an object that others extended. The first reading of a deployment is forbidden. -/
def guardedServer : Server where
  objects := [(({} : ClusterSettings).keyOf ⟨"ns", "ui"⟩, .object WebUI.extendedObject)]
  refusals := fun
    | .getDeployment => [.status (.int 403) (.text "Forbidden")]
    | _ => []

/-- The documents of this server fit. -/
theorem fits_guardedServer : guardedServer.Fits {} where
  objects id document h := by
    simp only [guardedServer, Table.get?] at h
    split at h
    · cases h
      exact ⟨_, { id := ⟨"ns", "ui"⟩, spec := { version := "v1.4" }, raw := WebUI.extendedObject },
        rfl, rfl, Fields.openAt_of_get? rfl, Fields.openAt_of_get? rfl⟩
    · cases h
  deployments key document h := by cases h

/-- The calls and a pass over this server keep their contracts, and the forbidden reading is
reported as an error. -/
theorem pass_over_interface_guardedServer :
    (∀ w, (Server.interface : Interface Server Unit).Contract ({} : Settings).cluster w) ∧
      PassContract overServer ⟨"ns", "ui"⟩ (served guardedServer) ∧
      Later (served guardedServer) [.otherError]
        ((overServer.pass ⟨"ns", "ui"⟩).runOn (served guardedServer)).2 := by
  obtain ⟨hcalls, hpass, -⟩ := pass_over_interface (Server.interface : Interface Server Unit) {}
    (fun command => Act.fail (.operator (exitError command 1))) (pure default)
    (Server.Fits ({} : Settings).cluster) (fun _ => .fail ⟨_, rfl⟩) (.pure default)
    (Artifacts.usable_of_nulFree (by decide) (by decide) (by decide) (by decide) (by decide))
  have hcontract := hpass (Server.serves _) ⟨"ns", "ui"⟩ (served guardedServer) fits_guardedServer
  refine ⟨hcalls, hcontract, ?_⟩
  -- The server lets the resource be read, and refuses its deployment.
  have hforbidden : ReadFails overServer ⟨"ns", "ui"⟩ (served guardedServer) _ _ :=
    .deployment rfl rfl
  refine (hcontract.unread _ _ hforbidden fun e he => ?_).2
  cases he
  decide

/-- An object whose version is a number. -/
def numberedObject : Fields :=
  [("metadata", .object [("namespace", .text "ns"), ("name", .text "ui")]),
    ("spec", .object [("version", .int 14)])]

/-- A server with that object. -/
def numberedServer : Server where
  objects := [(({} : ClusterSettings).keyOf ⟨"ns", "ui"⟩, .object numberedObject)]

/-- The reading of that object keeps no contract, and neither does a pass: no status is asked for,
and the watch ends with the faults of the document. -/
theorem numberedServer_breaks_contract :
    let reading := (overServer.cluster.getWebUI ⟨"ns", "ui"⟩).runOn (served numberedServer)
    let pass := (overServer.pass ⟨"ns", "ui"⟩).runOn (served numberedServer)
    let misfit : Failure := .faults [⟨[.key "version"], .notText⟩]
    (¬Interface.Kept (.ok (.object numberedObject)) reading.1) ∧
      ¬PassContract overServer ⟨"ns", "ui"⟩ (served numberedServer) ∧
      Later (served numberedServer) [] pass.2 ∧
      ((Watch.attend overServer ⟨"ns", "ui"⟩).runOn (served numberedServer)).1 = .error misfit := by
  intro reading pass misfit
  have hmisfit : misfit.IsMisfit := .faults _
  have hreading : reading.1 = .error misfit := rfl
  have hfails : ReadFails overServer ⟨"ns", "ui"⟩ (served numberedServer) misfit _ := .resource rfl
  have hpass := pass_run_of_uncaught hfails hmisfit.cluster?
  refine ⟨?_, fun hcontract => ?_, ?_, ?_⟩
  · rw [hreading]
    exact Interface.not_kept_of_misfit hmisfit
  · -- A misfit is no error of the operator, and the contract allows no other.
    obtain ⟨e, he⟩ := hcontract.operator misfit (by rw [hpass])
    have hnone := hmisfit.operator?
    rw [he] at hnone
    cases hnone
  · show Later _ [] ((overServer.pass ⟨"ns", "ui"⟩).runOn (served numberedServer)).2
    rw [hpass]
    exact (World.Aside.report _ rfl).later.trans (.of_eq rfl)
  · rw [attend_run_of_uncaught hpass hmisfit.operator?]

end Operator

end ConsoleKeeper
