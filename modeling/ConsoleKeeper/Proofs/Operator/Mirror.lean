import ConsoleKeeper.Proofs.Cluster.Mirror
import ConsoleKeeper.Proofs.Command.Recorder
import ConsoleKeeper.Proofs.Operator.Starts

/-!
# `ConsoleKeeper.Proofs.Operator.Mirror`: a pass over an interface and one in memory

An operator over a server and one over a store that mirrors it keep in step. Each call of theirs
goes one of three ways (`call_agrees`). A refusal waits for it, and it ends with the same cluster
error on both sides; or its object is absent on both sides; or it gives what a document says and
what the store has, which is the same. The two sides have different words for a resource that is
absent, but a pass does not look at these.

`passes_mirrored` puts this together: both passes end alike, start the same commands, ask for the
same statuses, and leave a server and a store that mirror each other.
-/

set_option autoImplicit false

namespace ConsoleKeeper.Operator

open Act (Agrees)
open World (Mirrored)

variable {ρ : Type} {settings : ClusterSettings} {id : ResourceId}

/-! ### How calls end -/

/-- Two calls end with related values or with related cluster errors, and their worlds mirror each
other. -/
inductive Matching {α β : Type} (settings : ClusterSettings) (id : ResourceId)
    (E : OperatorError → OperatorError → Prop) (V : α → β → Prop) :
    Except Failure α × World Server ρ → Except Failure β × World Store ρ → Prop where
  | value {a : α} {b : β} {w : World Server ρ} {w' : World Store ρ} (h : V a b)
      (hw : Mirrored settings id w w') : Matching settings id E V (.ok a, w) (.ok b, w')
  | failure {e e' : OperatorError} {w : World Server ρ} {w' : World Store ρ} (h : E e e')
      (hkind : e.kind.isCluster = true) (hkind' : e'.kind.isCluster = true)
      (hw : Mirrored settings id w w') :
      Matching settings id E V (.error (.operator e), w) (.error (.operator e'), w')

section Calls

variable {α β : Type} {E : OperatorError → OperatorError → Prop} {V : α → β → Prop}

/-- Calls that end alike agree once their cluster errors are values. -/
theorem catching_agrees {call : Act Server ρ α} {call' : Act Store ρ β}
    (h : ∀ w w', Mirrored settings id w w' →
      Matching settings id E V (call.runOn w) (call'.runOn w')) :
    Agrees (Mirrored settings id) (LikeEnd E V) (Act.catching Failure.cluster? call)
      (Act.catching Failure.cluster? call') := by
  intro w w' hw
  have hmatching := h w w' hw
  generalize hrun : call.runOn w = x, hrun' : call'.runOn w' = x' at hmatching
  cases hmatching with
  | value hvalue hw₁ =>
    rw [Act.runOn_catching_ok hrun, Act.runOn_catching_ok hrun']
    exact ⟨.value (.value hvalue), hw₁⟩
  | @failure e e' _ _ he hkind hkind' hw₁ =>
    -- The errors may differ, but the handler accepts both.
    have hpick : Failure.cluster? (.operator e) = some e := by simp [Failure.cluster?, hkind]
    have hpick' : Failure.cluster? (.operator e') = some e' := by simp [Failure.cluster?, hkind']
    rw [Act.runOn_catching_some hrun hpick, Act.runOn_catching_some hrun' hpick']
    exact ⟨.value (.failure he), hw₁⟩

variable {operation : Operation} {ns name : String}
  {find : Server → Except Interface.Refusal Data} {make : Data → Data}
  {keep : Data → Server → Server} {read : Data → Except Failure α} {call' : Act Store ρ β}
  {w : World Server ρ} {w' : World Store ρ}

/-- A call for which a refusal waits ends with its cluster error on both sides. -/
theorem refused_matching (hw : Mirrored settings id w w') {refusal : Interface.Refusal}
    {rest : List Interface.Refusal} (hscript : w.cluster.refusals operation = refusal :: rest)
    (hE : ∀ e, E e e) (work : Act Store ρ β) :
    Matching settings id E V
      ((Server.query (settings.objectOf id operation) operation find make keep read).runOn w)
      ((do
        Store.answer operation ns name
        work : Act Store ρ β).runOn w') := by
  obtain ⟨w₁, hrun, htold⟩ := Server.query_run_refused (settings.objectOf id operation) make keep
    read (Server.reply_eq_error hscript (find w.cluster))
  -- What waits in the store is what the interface makes of the refusal.
  have hfailures : w'.cluster.failures operation =
      .operator (refusal.error (settings.objectOf id operation)) ::
        rest.map fun refusal => .operator (refusal.error (settings.objectOf id operation)) := by
    rw [hw.cluster.failures, hscript, List.map_cons]
  have hasked := hw.withCluster (hw.cluster.asked ⟨operation, ns, name⟩)
  have hkind := refusal.isCluster_error (settings.objectOf id operation)
  rw [hrun, Act.runOn_bind_error _ (Store.answer_run_failing hfailures)]
  exact .failure (hE _) hkind hkind (hasked.told htold (.event rfl))

/-- A call about an object that is absent ends with the error of an absent object. -/
theorem absent_matching (hw : Mirrored settings id w w')
    (hscript : w.cluster.refusals operation = []) (hfound : find w.cluster = .error Server.absence)
    {object : ObjectName} {kind : String}
    (hrun' : call'.runOn w' = (.error (.operator (.absent kind ns name)),
      { w' with cluster := w'.cluster.noted ⟨operation, ns, name⟩ }))
    (hE : E (Server.absence.error object) (.absent kind ns name)) :
    Matching settings id E V ((Server.query object operation find make keep read).runOn w)
      (call'.runOn w') := by
  obtain ⟨w₁, hrun, htold⟩ := Server.query_run_refused object make keep read
    ((Server.reply_eq_answer hscript (find w.cluster)).trans hfound)
  have hnoted := hw.withCluster (hw.cluster.noted hscript ns name)
  rw [hrun, hrun']
  exact .failure hE (Server.absence.isCluster_error object) rfl (hnoted.told htold .nothing)

/-- A call that is answered gives what the document says and what the store gives. -/
theorem answered_matching (hscript : w.cluster.refusals operation = []) {document : Data} {a : α}
    {b : β} {w₁' : World Store ρ} {object : ObjectName} (hfound : find w.cluster = .ok document)
    (hread : read (make document) = .ok a) (hrun' : call'.runOn w' = (.ok b, w₁')) (hV : V a b)
    (hw : Mirrored settings id
      { w with cluster := keep (make document) (w.cluster.asked operation) } w₁') :
    Matching settings id E V ((Server.query object operation find make keep read).runOn w)
      (call'.runOn w') := by
  have hreply := (Server.reply_eq_answer hscript (find w.cluster)).trans hfound
  rw [Server.query_run object hreply hread, hrun']
  exact .value hV hw

/-- A call about something stored agrees with its counterpart, if nothing is there on either side,
or what is there is answered alike. -/
theorem call_agrees {τ γ : Type} [DecidableEq τ] {fits : Data → γ → Prop} (hE : ∀ e, E e e)
    (table : Server → Table τ Data) (key : τ) (entry : Store → Option γ)
    (hpair : ∀ server store, Server.Mirrored settings id server store →
      Option.Rel fits ((table server).get? key) (entry store))
    (hcall : ∃ work : Act Store ρ β, call' = do
      Store.answer operation ns name
      work)
    (habsent : ∀ w' : World Store ρ, w'.cluster.failures operation = [] → entry w'.cluster = none →
      ∃ kind, call'.runOn w' = (.error (.operator (.absent kind ns name)),
          { w' with cluster := w'.cluster.noted ⟨operation, ns, name⟩ }) ∧
        E (Server.absence.error (settings.objectOf id operation)) (.absent kind ns name))
    (hthere : ∀ (w : World Server ρ) (w' : World Store ρ) document kept,
      w'.cluster.failures operation = [] → entry w'.cluster = some kept → fits document kept →
      Mirrored settings id { w with cluster := w.cluster.asked operation }
        { w' with cluster := w'.cluster.noted ⟨operation, ns, name⟩ } →
      ∃ a b w₁', read (make document) = .ok a ∧ call'.runOn w' = (.ok b, w₁') ∧ V a b ∧
        Mirrored settings id
          { w with cluster := keep (make document) (w.cluster.asked operation) } w₁') :
    Agrees (Mirrored settings id) (LikeEnd E V)
      (Act.catching Failure.cluster? (Server.query (settings.objectOf id operation) operation
        (fun server => Server.found (table server) key) make keep read))
      (Act.catching Failure.cluster? call') := by
  refine catching_agrees fun w w' hw => ?_
  -- Refusals wait on both sides or on neither; after that the entry is there on both sides or on
  -- neither.
  cases hscript : w.cluster.refusals operation with
  | cons refusal rest =>
    obtain ⟨work, rfl⟩ := hcall
    exact refused_matching hw hscript hE work
  | nil =>
    have hfailures := hw.cluster.failures_eq_nil hscript
    have hkept := hpair _ _ hw.cluster
    generalize hdocument : (table w.cluster).get? key = found,
      hentry : entry w'.cluster = found' at hkept
    cases hkept with
    | none =>
      obtain ⟨kind, hrun', hwords⟩ := habsent w' hfailures hentry
      refine absent_matching hw hscript ?_ hrun' hwords
      exact Server.found_eq_absence hdocument
    | some hfits =>
      have hnoted := hw.withCluster (hw.cluster.noted hscript ns name)
      obtain ⟨a, b, w₁', hread, hrun', hvalue, hafter⟩ :=
        hthere w w' _ _ hfailures hentry hfits hnoted
      refine answered_matching hscript ?_ hread hrun' hvalue hafter
      exact Server.found_eq_ok_iff.mpr hdocument

end Calls

/-! ### The four calls -/

/-- The same resource was read on both sides. The one from the server describes its object. -/
structure SameReading (id : ResourceId) (resource resource' : WebUI) : Prop where
  named : resource'.id = id
  same : resource = { resource' with raw := resource.raw }
  described : WebUI.Describes resource.raw resource

/-- What the server gets with a status is what the store gets. -/
theorem SameReading.written {resource resource' : WebUI} (h : SameReading id resource resource')
    (status : WebUI.Status) :
    WebUI.Reflects id (.object (WebUI.written { resource with status }))
      { resource' with status } := by
  obtain ⟨hnamed, hsame, hdescribes⟩ := h
  refine ⟨hnamed, _, rfl, ?_⟩
  have hwritten := hdescribes.written status
  rw [hsame] at hwritten ⊢
  exact hwritten

/-- A resource is read alike. -/
theorem getWebUI_mirrored :
    Agrees (Mirrored settings id : World Server ρ → _) (LikeEnd SameTrouble (SameReading id))
      (Act.catching Failure.cluster? (Server.interface.getWebUI settings id))
      (Act.catching Failure.cluster? (Store.getWebUI id)) := by
  rw [Interface.getWebUI, Server.interface_getObject]
  refine call_agrees SameTrouble.refl (·.objects) (settings.keyOf id) (·.webui? id)
    (fun _ _ h => h.webuis id) ⟨_, rfl⟩ ?_ ?_
  · intro w' hfailures hnone
    exact ⟨_, Store.getWebUI_run_absent hfailures hnone, .inr ⟨rfl, rfl⟩⟩
  · intro w w' document resource hfailures hresource hreflects hnoted
    obtain ⟨object, rfl, hdescribes⟩ := hreflects.described
    exact ⟨_, resource, _, hdescribes.read, Store.getWebUI_run hfailures hresource,
      ⟨hreflects.named, rfl, hdescribes⟩, hnoted⟩

/-- A resource is written alike with a status, if it is the same that was read on both sides. -/
theorem updateWebUI_mirrored {resource resource' : WebUI} (h : SameReading id resource resource')
    (status : WebUI.Status) :
    Agrees (Mirrored settings id : World Server ρ → _) (LikeEnd SameTrouble fun _ _ => True)
      (Act.catching Failure.cluster?
        (Server.interface.updateWebUI settings { resource with status }))
      (Act.catching Failure.cluster? (Store.updateWebUI { resource' with status })) := by
  have hid : ({ resource with status } : WebUI).id = id := (congrArg WebUI.id h.same).trans h.named
  have hwritten := h.written status
  rw [Interface.updateWebUI, h.described.toObject status, Act.lift_ok_bind]
  -- Of what is written, only this matters from here on.
  generalize WebUI.written { resource with status } = body at hwritten ⊢
  generalize ({ resource' with status } : WebUI) = reported at hwritten ⊢
  obtain rfl := hwritten.named
  rw [hid, Server.interface_replaceObject]
  refine call_agrees SameTrouble.refl (·.objects) (settings.keyOf reported.id)
    (·.webui? reported.id) (fun _ _ h => h.webuis reported.id) ⟨_, rfl⟩ ?_ ?_
  · intro w' hfailures hnone
    exact ⟨_, Store.updateWebUI_run_absent hfailures hnone, .inr ⟨rfl, rfl⟩⟩
  · intro w w' document old hfailures hold _ hnoted
    obtain ⟨object, hbody, hdescribes⟩ := hwritten.described
    refine ⟨_, reported, _, hbody ▸ hdescribes.read, Store.updateWebUI_run hfailures hold, trivial,
      ?_⟩
    exact (hnoted.withCluster (hnoted.cluster.putWebUI hwritten)).told .nothing (.event rfl)

/-- The deployment of the settings is read alike. -/
theorem getDeployment_mirrored :
    Agrees (Mirrored settings id : World Server ρ → _)
      (LikeEnd SameWords fun deployment deployment' =>
        deployment' = deployment ∧ deployment.key = (id.ns, settings.deploymentName))
      (Act.catching Failure.cluster?
        (Server.interface.getDeployment id.ns settings.deploymentName))
      (Act.catching Failure.cluster? (Store.getDeployment id.ns settings.deploymentName)) := by
  rw [Interface.getDeployment, Server.interface_readDeployment]
  refine call_agrees SameWords.refl (·.deployments) (id.ns, settings.deploymentName)
    (·.deployment? id.ns settings.deploymentName) (fun _ _ h => h.deployments _ _) ⟨_, rfl⟩ ?_ ?_
  · intro w' hfailures hnone
    exact ⟨_, Store.getDeployment_run_absent hfailures hnone, .inr ⟨rfl, rfl⟩, rfl⟩
  · intro w w' document deployment hfailures hdeployment hreflects hnoted
    exact ⟨_, _, _, hreflects.read, Store.getDeployment_run hfailures hdeployment,
      ⟨rfl, hreflects.keyed⟩, hnoted⟩

/-- The owners of the deployment of the settings are written alike. -/
theorem updateOwners_mirrored {deployment : Deployment}
    (hkey : deployment.key = (id.ns, settings.deploymentName)) :
    Agrees (Mirrored settings id : World Server ρ → _) (LikeEnd SameWords Eq)
      (Act.catching Failure.cluster? (Server.interface.updateOwners deployment))
      (Act.catching Failure.cluster? (Store.updateOwners deployment)) := by
  have hobject : (⟨"Deployment", deployment.ns, deployment.name⟩ : ObjectName) =
      settings.objectOf id .updateOwners := by
    obtain ⟨hns, hname⟩ := Prod.mk.injEq .. ▸ hkey
    rw [hns, hname]
    rfl
  rw [Interface.updateOwners, hobject, Server.interface_patchDeployment]
  refine call_agrees SameWords.refl (·.deployments) (deployment.ns, deployment.name)
    (·.deployment? deployment.ns deployment.name) (fun _ _ h => h.deployments _ _) ⟨_, rfl⟩ ?_ ?_
  · intro w' hfailures hnone
    refine ⟨_, Store.updateOwners_run_absent hfailures hnone, ?_⟩
    rw [← hobject]
    exact ⟨.inr ⟨rfl, rfl⟩, rfl⟩
  · intro w w' document current hfailures hcurrent hreflects hnoted
    have hpatched := Server.ofInterface_patched hreflects.read deployment
    refine ⟨_, _, _, hpatched, Store.updateOwners_run hfailures hcurrent hreflects.keyed, rfl,
      hnoted.withCluster ?_⟩
    -- The store keeps what is put under its own key, which is the one that was asked for.
    have hput := hnoted.cluster.putDeployment hpatched
    have hkept : Deployment.key { current with owners := deployment.owners } =
        (deployment.ns, deployment.name) := hreflects.keyed
    rwa [hkept] at hput

/-! ### A pass -/

/-- What is said about a call that failed is no part of a report. -/
theorem report_mirrored {event event' : Event} (h : event'.report? = event.report?) :
    Agrees (Mirrored settings id : World Server ρ → _) Eq (Act.report event) (Act.report event') :=
  fun _ _ hw => ⟨.value rfl, hw.report h⟩

/-- A status is reported alike. -/
theorem setStatus_mirrored {op : Operator Server ρ} {op' : Operator Store ρ}
    (hcluster : op.cluster = Server.interface.cluster settings)
    (hcluster' : op'.cluster = Store.cluster) (phase : Phase) (message : String) :
    Agrees (Mirrored settings id) Eq (op.setStatus id phase message)
      (op'.setStatus id phase message) := by
  rw [setStatus, setStatus, hcluster, hcluster']
  refine Agrees.discard (V := Eq) ?_
  unfold reportStatus
  refine getWebUI_mirrored.bind ?_
  -- A resource that cannot be read is reported on both sides, and nothing is written.
  rintro _ _ (hsame | _)
  · refine (Agrees.lift (.refl _)).bind ?_
    rintro text _ rfl
    refine (updateWebUI_mirrored hsame _).bind ?_
    rintro _ _ (_ | _)
    · exact Agrees.bind (report_mirrored rfl) fun _ _ _ => .pure rfl
    · exact Agrees.bind (report_mirrored (by rfl)) fun _ _ _ => .pure rfl
  · exact Agrees.bind (report_mirrored (by rfl)) fun _ _ _ => .pure rfl

/-- What is the same on both sides is all that a pass makes use of. -/
theorem SameReading.sameWish {resource resource' : WebUI} (h : SameReading id resource resource') :
    SameWish (· = id) resource resource' := by
  obtain ⟨hnamed, hsame, -⟩ := h
  rw [hsame]
  exact ⟨hnamed, rfl, rfl, rfl, rfl, rfl⟩

/-- An operator over a server keeps in step with one over a store, if their runners and their
sources of credentials agree between worlds that mirror each other. -/
theorem inStep_mirrored (op : Operator Server ρ) (op' : Operator Store ρ)
    (hsettings : op'.settings = op.settings)
    (hcluster : op.cluster = Server.interface.cluster op.settings.cluster)
    (hcluster' : op'.cluster = Store.cluster) (id : ResourceId)
    (hrunner : ∀ command,
      Agrees (Mirrored op.settings.cluster id) Eq (op.runner command) (op'.runner command))
    (hcredentials : Agrees (Mirrored op.settings.cluster id) Eq op.credentials op'.credentials) :
    InStep (Mirrored op.settings.cluster id) (· = id)
      (· = (id.ns, op.settings.cluster.deploymentName)) op op' where
  shared := World.Mirrored.shared _ _
  settings := hsettings
  getWebUI := by
    rintro _ rfl
    rw [hcluster, hcluster']
    refine getWebUI_mirrored.mono ?_
    -- A pass uses less of the resource than a write-back does: the same wish is enough for it.
    rintro _ _ (hsame | htrouble)
    · exact .value hsame.sameWish
    · exact .failure htrouble
  getDeployment := by
    rintro _ rfl
    rw [hcluster, hcluster']
    exact getDeployment_mirrored
  updateOwners deployment hkey := by
    rw [hcluster, hcluster']
    exact updateOwners_mirrored hkey
  setStatus := by
    rintro _ rfl phase message
    exact setStatus_mirrored hcluster hcluster' phase message
  runner := hrunner
  credentials := hcredentials

/-- A pass over an interface and a pass in memory cannot be told apart. Let a store mirror a server,
such as the one with all that can be read from it (`Server.mirrored_parsed`), and let the runners
and the sources of credentials agree between worlds that mirror each other. Then both passes end
with the same result or the same failure. They start the same commands in the same order, they ask
for the same statuses and write the same of them, and they leave a server and a store that mirror
each other. -/
theorem passes_mirrored {ρ : Type} (settings : Settings) (runner : Runner Server ρ)
    (runner' : Runner Store ρ) (credentials : Act Server ρ Credentials)
    (credentials' : Act Store ρ Credentials) (id : ResourceId) (w : World Server ρ)
    (w' : World Store ρ)
    (hrunner : ∀ command,
      Agrees (Mirrored settings.cluster id) Eq (runner command) (runner' command))
    (hcredentials : Agrees (Mirrored settings.cluster id) Eq credentials credentials')
    (hw : Mirrored settings.cluster id w w') :
    let op : Operator Server ρ :=
      { settings, cluster := Server.interface.cluster settings.cluster, runner, credentials }
    let op' : Operator Store ρ :=
      { settings, cluster := Store.cluster, runner := runner', credentials := credentials' }
    ((op'.pass id).runOn w').1 = ((op.pass id).runOn w).1 ∧
      (op'.passStarts id w').map Start.command = (op.passStarts id w).map Start.command ∧
      ((op'.pass id).runOn w').2.reports = ((op.pass id).runOn w).2.reports ∧
      Mirrored settings.cluster id ((op.pass id).runOn w).2 ((op'.pass id).runOn w').2 := by
  intro op op'
  have hstep : InStep (Mirrored settings.cluster id) (· = id)
      (· = (id.ns, settings.cluster.deploymentName)) op op' :=
    inStep_mirrored op op' rfl rfl rfl id hrunner hcredentials
  obtain ⟨hend, hcommands, hafter⟩ := passes_inStep hstep rfl hw
  exact ⟨hend, hcommands, hafter.reports, hafter⟩

/-! ### A recorder on both sides -/

/-- A change of both clusters that keeps the one a mirror of the other. -/
theorem changeCluster_mirrored {f : Server → Server} {f' : Store → Store}
    (hf : ∀ server store, Server.Mirrored settings id server store →
      Server.Mirrored settings id (f server) (f' store)) :
    Agrees (Mirrored settings id : World Server ρ → _) Eq (Act.changeCluster f)
      (Act.changeCluster f') :=
  fun _ _ hw => ⟨.value rfl, hw.withCluster (hf _ _ hw.cluster)⟩

/-- Recorders agree if their hooks do. -/
theorem recorder_mirrored {η : Type} {hook : Command → Act Server (Recorder η) Unit}
    {hook' : Command → Act Store (Recorder η) Unit}
    (hhook : ∀ command, Agrees (Mirrored settings id) Eq (hook command) (hook' command))
    (command : Command) :
    Agrees (Mirrored settings id) Eq (Recorder.run hook command) (Recorder.run hook' command) :=
  Recorder.run_agrees (World.Mirrored.shared settings id) (fun _ _ hw => hw.runner)
    (fun _ _ hw _ => ⟨hw.cluster, rfl, hw.files, hw.random, hw.reports⟩) hhook command

/-- The document of a console, with a container that has no image. -/
def consoleDocument : Data :=
  .object [("metadata", .object [("name", .text "console"), ("namespace", .text "ns")]),
    ("spec", .object [("template", .object [("spec", .object
      [("containers", .list [.object [("name", .text "console")]])])])])]

/-- The console of that document. -/
def consoleDeployment : Deployment :=
  { name := "console", ns := "ns", containers := [⟨"console", ""⟩] }

/-- The playbook deploys a console. -/
def deploying {κ : Type} (deploy : κ → κ) (command : Command) : Act κ (Recorder Unit) Unit :=
  if command.program.endsWith "ansible-playbook" then Act.changeCluster deploy else pure ()

/-- The playbook deploys the same console on both sides. -/
theorem deploying_mirrored (command : Command) :
    Agrees (Mirrored settings id) Eq
      (deploying (·.putDeployment ("ns", "console") consoleDocument) command)
      (deploying (·.putDeployment consoleDeployment) command) := by
  have hread : Deployment.ofInterface consoleDocument = .ok consoleDeployment := rfl
  unfold deploying
  split
  · exact changeCluster_mirrored fun _ _ h => h.putDeployment hread
  · exact .pure rfl

/-- A server with one object. The first write of it meets with a conflict. -/
def conflictedServer : Server where
  objects := [(({} : ClusterSettings).keyOf ⟨"ns", "ui"⟩, .object
    [("metadata", .object [("name", .text "ui"), ("namespace", .text "ns"), ("uid", .text "u1")]),
      ("spec", .object [("version", .text "v1.4")])])]
  refusals := fun
    | .updateWebUI => [.status (.int 409) (.text "Conflict")]
    | _ => []

/-- Every document of this server stands under its own name. -/
theorem consistent_conflictedServer : conflictedServer.Consistent {} where
  objects entry hentry other hother := by
    rw [conflictedServer, List.mem_singleton] at hentry
    subst hentry
    obtain rfl := ClusterSettings.keyOf_inj.mp hother
    refine ⟨{ id := ⟨"ns", "ui"⟩, uid := "u1", spec := { version := "v1.4" } }, rfl, _, rfl, rfl,
      Fields.openAt_of_get? rfl, ?_⟩
    rintro _ ⟨⟩
  deployments entry hentry := by cases hentry

/-- A world in which files can be made. -/
def prepared {κ : Type} (cluster : κ) : World κ (Recorder Unit) :=
  { cluster, runner := { memory := () }, files := ⟨[(["tmp"], .directory)], []⟩ }

/-- Passes over that server and over the store with all that can be read from it. -/
theorem passes_mirrored_conflictedServer :
    let runner := Recorder.run (deploying (·.putDeployment ("ns", "console") consoleDocument))
    let runner' := Recorder.run (deploying (·.putDeployment consoleDeployment))
    let op : Operator Server (Recorder Unit) :=
      { settings := {}, cluster := Server.interface.cluster {}, runner
        credentials := pure default }
    let op' : Operator Store (Recorder Unit) :=
      { settings := {}, cluster := Store.cluster, runner := runner', credentials := pure default }
    let id : ResourceId := ⟨"ns", "ui"⟩
    let w := prepared conflictedServer
    let w' := prepared (conflictedServer.parsed {} id)
    ((op'.pass id).runOn w').1 = ((op.pass id).runOn w).1 ∧
      (op'.passStarts id w').map Start.command = (op.passStarts id w).map Start.command ∧
      ((op'.pass id).runOn w').2.reports = ((op.pass id).runOn w).2.reports ∧
      Mirrored {} id ((op.pass id).runOn w).2 ((op'.pass id).runOn w').2 := by
  intro runner runner' op op' id w w'
  have hw : Mirrored {} id w w' :=
    ⟨Server.mirrored_parsed consistent_conflictedServer id, rfl, rfl, rfl, rfl⟩
  exact passes_mirrored {} runner runner' (pure default) (pure default) id w w'
    (recorder_mirrored deploying_mirrored) (.pure rfl) hw

end ConsoleKeeper.Operator
