/-
The runtime directory of the desktop application. There is no record of what a machine is: its role is read off from which of
a dozen files exist (`fabric_role_at`, `launch_fabric`). The functions of this module create, rename and delete these files
one by one: Leave fabric, factory reset, preparing to join, storing an invitation, and creating a fabric. Every operation can
fail, and the process can die after any of them.
-/
import Rampage.Lib.Disk
import Rampage.Lib.Json
import Rampage.Lib.Table

namespace Rampage.Desktop

open Handler

/-! ## The directory -/

/-- What a symbolic link leads to. -/
inductive LinkTarget
  | file | directory | missing
deriving DecidableEq

/-- What a name of a directory stands for. -/
inductive Entry
  | file (bytes : String)
  | directory
  | link (target : LinkTarget)
  | special
deriving DecidableEq

/-- `Path::is_file`, which follows links. -/
def Entry.isFile : Entry → Bool
  | .file _ => true
  | .link .file => true
  | _ => false

/-- `Path::exists`, which follows links. -/
def Entry.isPresent : Entry → Bool
  | .link .missing => false
  | _ => true

/-- The entries of the runtime directory by name. -/
abbrev Dir := Table String Entry

namespace Dir

/-- `data_dir.join(name).is_file()`. -/
def isFile (d : Dir) (name : String) : Bool := (d.lookup name).any Entry.isFile

/-- `data_dir.join(name).exists()`. -/
def isPresent (d : Dir) (name : String) : Bool := (d.lookup name).any Entry.isPresent

end Dir

/-- `io::ErrorKind`, as far as the code tells kinds apart. -/
inductive ErrorKind
  | notFound | alreadyExists | other
deriving DecidableEq

/-- An error of the file system, with the text the system gives it. -/
structure IoError where
  kind : ErrorKind
  text : String

/-- One operation on the directory. `write` and `sync` are on the handle of a file that was just created. -/
inductive FileOp
  | createDirAll
  | readDir
  | createNew (name : String)
  | write (name bytes : String)
  | sync (name : String)
  | removeFile (name : String)
  | removeDirAll (name : String)
  | rename (source target : String)

/-- What an operation on a missing name fails with. -/
def notFound : IoError := ⟨.notFound, "No such file or directory"⟩

/-- What an operation does to the runtime's directory where the system lets it. -/
def FileOp.apply : FileOp → Dir → Except IoError Dir
  | .createDirAll, d => .ok d
  | .readDir, d => .ok d
  | .createNew name, d =>
    if (d.lookup name).isSome then .error ⟨.alreadyExists, "File exists"⟩ else .ok (d.insert name (.file ""))
  | .write name bytes, d => .ok (d.insert name (.file bytes))
  | .sync _, d => .ok d
  | .removeFile name, d =>
    match d.lookup name with
    | none => .error notFound
    | some .directory => .error ⟨.other, "Is a directory"⟩
    | some _ => .ok (d.erase name)
  | .removeDirAll name, d =>
    match d.lookup name with
    | none => .error notFound
    | some .directory => .ok (d.erase name)
    | some _ => .error ⟨.other, "Not a directory"⟩
  | .rename source target, d =>
    match d.lookup source, d.lookup target with
    | none, _ => .error notFound
    | some _, some .directory => .error ⟨.other, "Is a directory"⟩
    | some e, _ => .ok ((d.erase source).insert target e)

/-- The names an operation changes. -/
def FileOp.names : FileOp → List String
  | .createNew name => [name]
  | .write name _ => [name]
  | .removeFile name => [name]
  | .removeDirAll name => [name]
  | .rename source target => [source, target]
  | _ => []

/-- An operation leaves the other names alone. -/
theorem FileOp.lookup_apply {op : FileOp} {d d' : Dir} (h : op.apply d = .ok d') {name : String} (hn : name ∉ op.names) :
    d'.lookup name = d.lookup name := by
  cases op with
  | createDirAll => cases h; rfl
  | readDir => cases h; rfl
  | sync => cases h; rfl
  | createNew n =>
    simp only [FileOp.names, List.mem_singleton] at hn
    simp only [FileOp.apply] at h
    split at h
    · cases h
    · cases h
      rw [Table.lookup_insert', if_neg hn]
  | write n bytes =>
    simp only [FileOp.names, List.mem_singleton] at hn
    cases h
    rw [Table.lookup_insert', if_neg hn]
  | removeFile n =>
    simp only [FileOp.names, List.mem_singleton] at hn
    simp only [FileOp.apply] at h
    split at h <;> cases h
    rw [Table.lookup_erase', if_neg hn]
  | removeDirAll n =>
    simp only [FileOp.names, List.mem_singleton] at hn
    simp only [FileOp.apply] at h
    split at h <;> cases h
    rw [Table.lookup_erase', if_neg hn]
  | rename source target =>
    simp only [FileOp.names, List.mem_cons, List.not_mem_nil, or_false, not_or] at hn
    simp only [FileOp.apply] at h
    split at h <;> cases h
    rw [Table.lookup_insert', if_neg hn.2, Table.lookup_erase', if_neg hn.1]

/-! ## Names -/

/-- There is a fabric of this machine's own. -/
def ownerFabricMarker : String := "owner-fabric-v1.ready"

/-- The owner of the machine has confirmed the fabric. -/
def ownerConfirmedMarker : String := "owner-confirmed-v1.ready"

/-- The machine has to be set up again. -/
def setupRequiredMarker : String := "setup-required-v1.ready"

/-- The machine waits to be paired. -/
def workerPairingIntentMarker : String := "worker-pairing-v1.pending"

/-- Whether Remote Assist is allowed on this machine. -/
def remoteAssistPolicyFile : String := "remote-assist-policy.json"

/-- The session that is watched at the moment. -/
def remoteAssistActiveFile : String := "remote-assist-active.json"

/-- The firewall has been opened for the private network. -/
def firewallMarkerFile : String := "firewall-private-v2.ready"

/-- What has to be typed to leave a fabric. -/
def leaveFabricConfirmation : String := "LEAVE FABRIC"

/-- What has to be typed to reset the machine. -/
def factoryResetConfirmation : String := "RESET RAMPAGE"

/-- The names whose presence `ensure_neutral_first_run` takes for fabric state. -/
def fabricState : List String :=
  [setupRequiredMarker, ownerFabricMarker, "remote-invite.json", "agent.controller-pin.json", "agent.enrolled",
    "agent.identity.json", "agent.key", "controller.token", "controller.db", "governor.key", "mesh.key", "storage.key"]

/-- The credentials of a worker that `remove_stale_worker_credentials_in_setup` removes. -/
def staleCredentials : List String :=
  ["remote-invite.json", "agent.controller-pin.json", "agent.enrolled", "agent.identity.json", "agent.key",
    remoteAssistPolicyFile, remoteAssistActiveFile]

/-! ## Roles -/

/-- What the desktop starts as. -/
inductive Role
  | setup | worker | owner
deriving DecidableEq

namespace Dir

/-- `setup_required`. -/
def setupRequired (d : Dir) : Bool := d.isFile setupRequiredMarker

/-- `worker_enrollment_exists`. -/
def workerEnrollmentExists (d : Dir) : Bool :=
  !d.isFile setupRequiredMarker && !d.isFile ownerFabricMarker &&
    (d.isFile "remote-invite.json" || d.isFile "agent.controller-pin.json")

/-- `fabric_role_at`. -/
def fabricRole (d : Dir) : Role :=
  if d.setupRequired then .setup else if d.workerEnrollmentExists then .worker else .owner

end Dir

/-! ## The application -/

/-- Where the runtime directory is. -/
structure RuntimePath where
  isAbsolute : Bool
  fileName : Option String
  parentName : Option String
  isSymlink : Bool

/-- What the application finds around the directory: its path, and the answers of the calls that do not touch it. -/
structure App where
  path : RuntimePath
  /-- `Path::display`. -/
  display : String → String
  onWindows : Bool
  /-- `serde_json::from_str`. -/
  parseJson : String → Except String Json
  stopAllSidecars : Except String Unit
  setAutostart : Except String Unit

/-- The order in which `read_dir` yields the entries of a directory. -/
structure Listing where
  names : Dir → List String
  perm : ∀ d : Dir, (names d).Perm d.keys

/-- Handlers on the runtime directory. -/
abbrev OnDisk (α : Type) : Type := Handler (Disk Dir FileOp) String α

/-- One operation; a fault of the file system is an error of another kind. -/
def file (op : FileOp) : Handler (Disk Dir FileOp) IoError Unit := Disk.perform FileOp.apply ⟨.other, "Input/output error"⟩ op

/-- `if let Err(error) =`: what is done about a failure. -/
def onError {ε : Type} (x : Handler (Disk Dir FileOp) ε Unit) (report : ε → OnDisk Unit) : OnDisk Unit :=
  result x >>= fun r =>
    match r with
    | .ok () => pure ()
    | .error e => report e

/-- `map_err`: an operation whose failure is reported as a text. -/
def orText (op : FileOp) (text : String → String) : OnDisk Unit := onError (file op) fun e => fail (text e.text)

/-- `let _ =`: an operation whose failure is ignored. -/
def ignored (op : FileOp) : OnDisk Unit := result (file op) >>= fun _ => pure ()

/-- `write_new_marker`. -/
def writeNewMarker (name bytes : String) : OnDisk Unit := do
  match ← result (file (.createNew name)) with
  | .ok () =>
    orText (.write name bytes) id
    orText (.sync name) id
  | .error e => if e.kind = .alreadyExists then pure () else fail e.text

/-! ## Launch -/

/-- `ensure_neutral_first_run`. -/
def ensureNeutralFirstRun : OnDisk Bool := do
  orText .createDirAll id
  let d ← Disk.read
  if fabricState.any d.isPresent then pure false
  else do
    writeNewMarker setupRequiredMarker "rampage.setup-required.v1\n"
    pure true

/-- `launch_fabric`, up to the point where it goes on to start the worker or the owner's controller. -/
def launchFabric : OnDisk Role := do
  orText .createDirAll id
  let _ ← ensureNeutralFirstRun
  let d ← Disk.read
  if d.setupRequired then pure .setup
  else if d.workerEnrollmentExists then pure .worker
  else do
    writeNewMarker ownerFabricMarker "rampage.owner-fabric.v1\n"
    pure .owner

section

variable (app : App) (listing : Listing)

/-! ## Reset -/

/-- `validate_runtime_reset_target`, for a directory that exists. -/
def validateRuntimeResetTarget : Except String Unit :=
  if !app.path.isAbsolute || app.path.fileName != some "runtime" ||
      !app.path.parentName.any fun value => value.toLower == "ai.obtuse.rampage" then
    .error "refusing to reset a path outside the Rampage runtime directory"
  else if app.path.isSymlink then .error "Rampage runtime path is not a regular directory"
  else .ok ()

/-- `remove_runtime_entry`. -/
def removeRuntimeEntry (name : String) : OnDisk Unit := do
  let d ← Disk.read
  match d.lookup name with
  | none => fail notFound.text
  | some (.file _) => orText (.removeFile name) id
  | some (.link _) => orText (.removeFile name) id
  | some .directory => orText (.removeDirAll name) id
  | some .special => fail ("refusing to reset unsupported runtime entry " ++ app.display name)

/-- `reset_runtime_to_setup`. -/
def resetRuntimeToSetup : OnDisk Unit := do
  ofExcept (validateRuntimeResetTarget app)
  orText .createDirAll id
  orText .readDir id
  let d ← Disk.read
  forEach (removeRuntimeEntry app) (listing.names d)
  writeNewMarker setupRequiredMarker "rampage.setup-required.v1\n"

/-- `leave_fabric`. -/
def leaveFabric (confirmation : String) : OnDisk Unit := do
  ensure (confirmation == leaveFabricConfirmation) "exact LEAVE FABRIC confirmation is required"
  let d ← Disk.read
  ensure (d.fabricRole == .worker) "Leave fabric is available only on a paired worker"
  ofExcept app.stopAllSidecars
  resetRuntimeToSetup app listing

/-- `factory_reset`. -/
def factoryReset (confirmation : String) : OnDisk Unit := do
  ensure (confirmation == factoryResetConfirmation) "exact RESET RAMPAGE confirmation is required"
  ofExcept app.stopAllSidecars
  ofExcept app.setAutostart
  resetRuntimeToSetup app listing

/-! ## Joining a fabric -/

/-- One name in the loop of `remove_stale_worker_credentials_in_setup`. -/
def removeStaleCredential (name : String) : OnDisk Unit := do
  let d ← Disk.read
  match d.lookup name with
  | none => pure ()
  | some (.file _) =>
    orText (.removeFile name) fun e => "could not remove stale pairing entry " ++ app.display name ++ ": " ++ e
  | some _ => fail ("refusing to replace non-regular stale pairing entry " ++ app.display name)

/-- `remove_stale_worker_credentials_in_setup`. -/
def removeStaleWorkerCredentialsInSetup : OnDisk Unit := do
  let d ← Disk.read
  if d.setupRequired then forEach (removeStaleCredential app) staleCredentials else pure ()

/-- `read_bounded_regular_file`. -/
def readBoundedRegularFile (d : Dir) (name : String) (limit : Nat) (label : String) : Except String String :=
  match d.lookup name with
  | none => .error ("could not inspect " ++ label ++ " path: " ++ notFound.text)
  | some (.file bytes) =>
    if limit < bytes.utf8ByteSize then .error (label ++ " is not a bounded regular file") else .ok bytes
  | some _ => .error (label ++ " is not a regular non-symlink file")

/-- The branch of `prepare_worker_pairing_files` for an owner that was never confirmed. -/
def retireUnconfirmedOwner : OnDisk Unit := do
  let d ← Disk.read
  resetRuntimeToSetup app listing
  if app.onWindows then
    match readBoundedRegularFile d firewallMarkerFile 4096 "private-network firewall marker" with
    | .ok marker => writeNewMarker firewallMarkerFile marker
    | .error _ => pure ()
  else pure ()

/-- The end of `prepare_worker_pairing_files`. -/
def writePairingIntent : OnDisk Unit := do
  let d ← Disk.read
  match readBoundedRegularFile d workerPairingIntentMarker 128 "worker pairing intent" with
  | .ok bytes =>
    if bytes = "rampage.worker-pairing.v1\n" then pure ()
    else fail "worker pairing intent has unexpected contents; use Fix Rampage before retrying"
  | .error _ =>
    if d.isPresent workerPairingIntentMarker then
      fail "worker pairing intent is not a bounded regular file; use Fix Rampage before retrying"
    else writeNewMarker workerPairingIntentMarker "rampage.worker-pairing.v1\n"

/-- What `prepare_worker_pairing_files` does about the role the machine has. -/
def leaveRole (d : Dir) : OnDisk Unit :=
  match d.fabricRole with
  | .worker => fail "this machine is already enrolled as a worker"
  | .owner =>
    if d.isFile ownerConfirmedMarker then
      fail "this machine owns a configured fabric; use Reset Rampage before joining another owner"
    else retireUnconfirmedOwner app listing
  | .setup => pure ()

/-- `prepare_worker_pairing_files`. -/
def prepareWorkerPairingFiles : OnDisk Unit := do
  let d ← Disk.read
  leaveRole app listing d
  removeStaleWorkerCredentialsInSetup app
  writePairingIntent

/-- The invitation carries its schema, a signed endpoint and the owner's key. -/
def isSignedInvite (parsed : Json) : Bool :=
  let text (v : Option Json) : Option String := match v with
    | some (.str s) => some s
    | _ => none
  text (parsed.get? "schema") == some "rampage.enrollment-invite.v1" &&
    (text ((parsed.get? "controller_mesh").bind (Json.get? "signature"))).any (· != "") &&
    (text (parsed.get? "governor_public_key")).any (· != "")

/-- The name under which an invitation is written, with a random part. -/
def temporaryInvite (token : String) : String := "remote-invite." ++ token ++ ".tmp"

/-- The invitation is written to a temporary file and renamed. -/
def storeInvite (temporary destination invitation : String) : OnDisk Unit := do
  orText (.createNew temporary) fun e => "could not create the protected enrollment file: " ++ e
  orText (.write temporary invitation) fun e => "could not write the enrollment file: " ++ e
  orText (.sync temporary) fun e => "could not durably store the enrollment file: " ++ e
  orText (.rename temporary destination) fun e => "could not activate the enrollment file: " ++ e

/-- Leave setup mode with the invitation in place; without it if this fails. -/
def leaveSetupMode : OnDisk Unit := do
  let d ← Disk.read
  if d.isFile setupRequiredMarker then
    onError (file (.removeFile setupRequiredMarker)) fun e => do
      ignored (.removeFile "remote-invite.json")
      fail ("could not leave setup mode after enrollment: " ++ e.text)
  else pure ()

/-- The intent goes last; if it cannot go, the machine goes back to setup mode. -/
def dropPairingIntent : OnDisk Unit :=
  onError (file (.removeFile workerPairingIntentMarker)) fun e => do
    ignored (.removeFile "remote-invite.json")
    onError (writeNewMarker setupRequiredMarker "rampage.setup-required.v1\n") fun _ => pure ()
    fail ("could not commit the protected pairing transaction: " ++ e.text)

/-- `persist_remote_invite_at`, once the invitation is checked and the pairing transaction is active. -/
def placeInvite (invitation token : String) : OnDisk Unit := do
  removeStaleWorkerCredentialsInSetup app
  let d ← Disk.read
  ensure (!d.isPresent "remote-invite.json" && !d.isPresent "agent.controller-pin.json")
    "this machine is already enrolled; remove it from the current fabric before enrolling again"
  onError (storeInvite (temporaryInvite token) "remote-invite.json" invitation) fun e => do
    ignored (.removeFile (temporaryInvite token))
    fail e
  leaveSetupMode
  dropPairingIntent

/-- `persist_remote_invite_at`, with the random part of the temporary name. -/
def persistRemoteInviteAt (invitation token : String) : OnDisk Unit := do
  let parsed ← ofExcept ((app.parseJson invitation).mapError fun e => "invite is not valid JSON: " ++ e)
  ensure (isSignedInvite parsed) "invite is missing its signed Rampage mesh endpoint"
  orText .createDirAll id
  let d ← Disk.read
  ensure (d.setupRequired && d.isFile workerPairingIntentMarker)
    "the protected nearby-pairing transaction is not active; start Join my fabric again"
  placeInvite app invitation token

end

/-! ## Creating a fabric -/

/-- `activate_owner_fabric`. -/
def activateOwnerFabric : OnDisk Unit := do
  let d ← Disk.read
  ensure (!d.workerEnrollmentExists) "this device is still paired as a worker"
  if d.isFile setupRequiredMarker then do
    writeNewMarker ownerFabricMarker "rampage.owner-fabric.v1\n"
    onError (writeNewMarker ownerConfirmedMarker "rampage.owner-confirmed.v1\n") fun e => do
      ignored (.removeFile ownerFabricMarker)
      fail e
    onError (file (.removeFile setupRequiredMarker)) fun e => do
      ignored (.removeFile ownerFabricMarker)
      ignored (.removeFile ownerConfirmedMarker)
      fail ("could not activate the owner fabric: " ++ e.text)
  else pure ()

/-- What a person does to the role of a machine. -/
inductive Command
  | leaveFabric (confirmation : String)
  | factoryReset (confirmation : String)
  | prepareWorkerPairing
  | persistRemoteInvite (invitation token : String)
  | activateOwnerFabric

/-- A command as a program over the directory. -/
def Command.run (app : App) (listing : Listing) : Command → OnDisk Unit
  | .leaveFabric confirmation => Desktop.leaveFabric app listing confirmation
  | .factoryReset confirmation => Desktop.factoryReset app listing confirmation
  | .prepareWorkerPairing => prepareWorkerPairingFiles app listing
  | .persistRemoteInvite invitation token => persistRemoteInviteAt app invitation token
  | .activateOwnerFabric => Desktop.activateOwnerFabric

end Rampage.Desktop
