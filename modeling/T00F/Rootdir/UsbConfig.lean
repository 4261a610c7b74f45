import T00F.Rootdir.Actions

/-!
# The USB configuration

What init's actions make of the USB port. `port_identified` says that they only describe the
port while it is disabled, so that it is never enabled with the identifiers of two
configurations, `usb_settles` that the port ends up as the last configuration that was set
asks for.
-/

namespace T00F.Rootdir

open Systems Systems.Triggers

abbrev Device := State Path Property Service

variable {services platform : List Service}

/-! ## Describing the port -/

/-- The gadget driver takes a new description of the port only while it is disabled. -/
def Path.describes : Path → Bool
  | .bDeviceClass | .idVendor | .idProduct | .functions | .instances => true
  | _ => false

/-- The identifiers of one configuration, or none yet. -/
def Identified (device : Device) : Prop :=
  (device.files .idVendor = "" ∧ device.files .idProduct = "") ∨
    ∃ row ∈ usbRows, device.files .idVendor = row.idVendor ∧ device.files .idProduct = row.idProduct

/-- What holds when a command runs: an enabled port is identified and not described anew. -/
def PortSafe (device : Device) (command : InitCommand) : Prop :=
  (device.files .enable = "1" → Identified device) ∧
    ∀ path value, command = .write path value → path.describes → device.files .enable = "0"

/-- The command leaves the identifiers alone and describes nothing. -/
def Unrelated (command : InitCommand) : Prop :=
  ∀ path value, command = .write path value → path ≠ .enable ∧ path.describes = false

/-- Then it leaves what describes the port as it is. -/
theorem Unrelated.files {command : InitCommand} (unrelated : Unrelated command) (device : Device)
    {path : Path} (port : path = .enable ∨ path.describes = true) :
    (device.perform services command).files path = device.files path := by
  have unassigned : command.assigned services (.file path) = none := by
    cases command with
    | write other value =>
        obtain ⟨notEnable, notDescribed⟩ := unrelated other value rfl
        have differ : path ≠ other := by
          rintro rfl
          rcases port with rfl | described
          · exact notEnable rfl
          · exact Bool.false_ne_true (notDescribed.symm.trans described)
        simp [Command.assigned, differ]
    | _ => rfl
  exact content_perform_of_none unassigned device

/-- The identifiers stay those of one configuration. -/
theorem Unrelated.identified {command : InitCommand} (unrelated : Unrelated command)
    {device : Device} (identified : Identified device) :
    Identified (device.perform services command) := by
  rw [Identified, unrelated.files device (.inr rfl), unrelated.files device (.inr rfl)]
  exact identified

/-- It may run whatever the port is like. -/
theorem Unrelated.safe {command : InitCommand} (unrelated : Unrelated command) {device : Device}
    (identified : device.files .enable = "1" → Identified device) : PortSafe device command :=
  ⟨identified, fun path value written described =>
    absurd described (Bool.eq_false_iff.mp (unrelated path value written).2)⟩

/-- Commands that have nothing to do with the description of the port. -/
theorem outlined_of_unrelated {commands : List InitCommand}
    (unrelated : ∀ command ∈ commands, Unrelated command) {device : Device}
    (identified : Identified device) : Outlined services PortSafe Identified commands device := by
  refine .of_forall (fun _ _ identified => identified) (fun command member _ identified => ?_) ?_
  · exact ⟨(unrelated command member).safe fun _ => identified,
      (unrelated command member).identified identified⟩
  · exact identified

/-- The actions that disable the port. -/
theorem disabled_outlined {device : Device} (identified : Identified device) :
    Outlined services PortSafe Identified disabled device := by
  have start : ∀ command ∈ [.stop .adbd, .stop .pclinkd], Unrelated command := by
    simp [Unrelated]
  have published : ∀ command ∈ [publish], Unrelated command := by
    simp [Unrelated, publish]
  refine Outlined.append (fun device identified => ?_) (outlined_of_unrelated start identified)
  refine fun _ => ⟨⟨fun _ => identified, by simp [Path.describes]⟩, fun _ => ⟨?_, ?_⟩⟩
  · simp [PortSafe]
  · refine outlined_of_unrelated published ?_
    simpa [Identified] using identified

/-- The port is disabled and has the identifiers of the row. -/
def Selected (row : UsbRow) (device : Device) : Prop :=
  device.files .enable = "0" ∧ device.files .idVendor = row.idVendor ∧
    device.files .idProduct = row.idProduct

/-- The commands between leave them as they are. -/
theorem UsbRow.selection_outlined {row : UsbRow} {device : Device}
    (selected : Selected row device) :
    Outlined services PortSafe (Selected row) row.selection device := by
  have unassigned : ∀ command ∈ row.selection, ∀ path ∈ [Path.enable, .idVendor, .idProduct],
      command.assigned services (.file path) = none := by
    cases instances : row.instances <;> cases sdis : row.sdis <;> cases wceis : row.wceis <;>
      simp [UsbRow.selection, Command.assigned, instances, sdis, wceis]
  refine .of_forall (fun _ _ selected => selected) (fun command member device selected => ?_) ?_
  · have kept : ∀ path ∈ [Path.enable, .idVendor, .idProduct],
        (device.perform services command).files path = device.files path := fun path listed =>
      content_perform_of_none (unassigned command member path listed) device
    obtain ⟨enable, vendor, product⟩ := selected
    refine ⟨⟨fun enabled => ?_, fun _ _ _ _ => enable⟩, ?_, ?_, ?_⟩
    · exact absurd (enable.symm.trans enabled) (by decide)
    · rw [kept _ (by simp), enable]
    · rw [kept _ (by simp), vendor]
    · rw [kept _ (by simp), product]
  · exact selected

/-- The actions that enable it: the new identifiers are complete before they do. -/
theorem UsbRow.outlined {row : UsbRow} (member : row ∈ usbRows) {device : Device}
    (identified : Identified device) :
    Outlined services PortSafe Identified row.commands device := by
  have preparation : ∀ command ∈ row.preparation, Unrelated command := by
    cases stops : row.stops <;> cases ffs : row.ffs <;>
      simp [UsbRow.preparation, Unrelated, Path.describes, stops, ffs]
  have activation : ∀ command ∈ row.activation, Unrelated command := by
    cases adbd : row.adbd <;> cases pclinkd : row.pclinkd <;> cases rps : row.rps <;>
      simp [UsbRow.activation, publish, Unrelated, Path.describes, adbd, pclinkd, rps]
  refine Outlined.append (fun device identified => ?_)
    (outlined_of_unrelated preparation identified)
  refine fun _ => ⟨⟨fun _ => identified, by simp [Path.describes]⟩,
    fun _ => ⟨by simp [PortSafe], fun _ => ⟨by simp [PortSafe], ?_⟩⟩⟩
  refine Outlined.append (fun device (selected : Selected row device) => ?_)
    (selection_outlined ?_)
  · obtain ⟨enable, vendor, product⟩ := selected
    refine fun _ => ⟨⟨fun _ => ?_, by simp [Path.describes]⟩, ?_⟩
    · exact .inr ⟨row, member, vendor, product⟩
    · refine outlined_of_unrelated activation (.inr ⟨row, member, ?_, ?_⟩)
      · simpa using vendor
      · simpa using product
  · simp [Selected]

/-- `adb root` disables the port and enables it with the identifiers that it has. -/
theorem adbRoot_outlined {device : Device} (identified : Identified device) :
    Outlined services PortSafe Identified adbRoot.commands device := by
  refine fun _ => ⟨⟨fun _ => identified, by simp [Path.describes]⟩,
    fun _ => ⟨?_, fun _ => ⟨?_, fun _ => ?_⟩⟩⟩
  · simp [PortSafe]
  · simp [PortSafe, Path.describes]
  · simpa [Identified] using identified

/-- Every action of the script. -/
theorem initActions_outlined : ∀ action ∈ initActions, ∀ device, Identified device →
    Outlined services PortSafe Identified action.commands device := by
  have others : ∀ action ∈ otherActions, ∀ command ∈ action.commands, Unrelated command := by
    simp [otherActions, onValues, modeTable, exposeModem, vbusTable, persistedConfig, persistedMode,
      Unrelated, Path.describes]
  refine initActions_cases ?_ ?_ ?_ ?_
  · exact fun _ _ identified => disabled_outlined identified
  · exact fun row member _ identified => row.outlined member identified
  · exact fun action member _ identified => outlined_of_unrelated (others action member) identified
  · exact fun _ identified => adbRoot_outlined identified

/-- In whatever order the actions run and whenever properties are set meanwhile: init describes the
port only while it is disabled, and an enabled port has the identifiers of one configuration. -/
theorem port_identified {reached : Device × List InitCommand}
    (reachable : (interleaved (script platform)).Reachable reached) :
    (reached.1.files .enable = "1" → Identified reached.1) ∧
      ∀ path value rest, reached.2 = .write path value :: rest → path.describes →
        reached.1.files .enable = "0" := by
  have outlined := outlined_of_reachable (.inl ⟨rfl, rfl⟩) (fun _ _ identified => identified)
    initActions_outlined reachable
  obtain ⟨device, running⟩ := reached
  cases running with
  | nil =>
      have identified : Identified device := outlined device.properties
      exact ⟨fun _ => identified, by simp⟩
  | cons command rest =>
      obtain ⟨⟨identified, described⟩, _⟩ := outlined device.properties
      refine ⟨identified, fun path value others started => ?_⟩
      exact described path value (List.cons.inj started).1

/-- For example while init goes from `mtp,adb` to `ptp`: the port has been enabled as the first, and
where the product of the second is written it is disabled. -/
theorem port_identified_ptp : ∃ enabled described : Device,
    enabled.files .enable = "1" ∧ enabled.files .idProduct = "5601" ∧ Identified enabled ∧
      described.files .idProduct = "5601" ∧ described.files .enable = "0" := by
  have known (row : UsbRow) (member : row ∈ usbRows) :
      [⟨.sysUsbConfig, some row.config, row.commands⟩] ⊆ (script [.adbd]).actions := by
    rintro action found
    obtain rfl := List.mem_singleton.mp found
    exact List.mem_append_left _ (List.mem_append_left _
      (List.mem_map.mpr ⟨_, usbTable_row member, rfl⟩))
  have mtp := known
    { config := "mtp,adb", idVendor := "0b05", idProduct := "5601", sdis := some "1", adbd := true }
    (by simp [usbRows])
  have ptp := known
    { config := "ptp", idVendor := "0b05", idProduct := "5604", sdis := some "0" }
    (by simp [usbRows])
  have started : (interleaved (script [.adbd])).Reachable
      (State.boot.set .sysUsbConfig "mtp,adb", []) :=
    (TransitionSystem.Reachable.initial rfl).step .set
  have finished := reachable_finish (started.step (.start mtp))
  have described := ((finished.step (.start ptp)).step .execute).step .execute
  refine ⟨_, _, ?_, ?_, (port_identified finished).1 ?_, ?_,
    (port_identified described).2 .idProduct [.text "5604"] _ rfl rfl⟩ <;> rfl

/-! ## The configuration that was set last -/

/-- Just the action of its row runs when a configuration is set. -/
theorem commandsFor_config {row : UsbRow} (member : row ∈ usbRows) :
    commandsFor initActions ⟨.sysUsbConfig, row.config⟩ = row.commands := by
  have others :
      commandsFor (otherActions ++ [adbRoot]) ⟨Property.sysUsbConfig, row.config⟩ = [] := by
    refine commandsFor_of_other ?_
    simp [otherActions, onValues, modeTable, vbusTable, persistedConfig, persistedMode, adbRoot]
  rw [initActions, List.append_assoc, commandsFor_append, others, List.append_nil]
  exact commandsFor_onValues usbTable_distinct (usbTable_row member)

/-- What the row writes to `functions`. -/
def UsbRow.functionList (row : UsbRow) : String :=
  (expand (fun _ => row.config) row.functions).getD ""

/-- `functions` gets the configuration itself or `mtp,adb`. -/
theorem usbRows_cases : ∀ row ∈ usbRows, row.config ≠ "" ∧
    (row.functions = [.property .sysUsbConfig] ∨ row.functions = [.text "mtp,adb"]) := by
  simp [usbRows]

/-- To disable the port only the configuration is read. -/
theorem disabled_reads : ∀ command ∈ disabled, command.Reads .sysUsbConfig := by
  simp [disabled, publish, Command.Reads]

/-- The commands of a row only read the configuration. -/
theorem UsbRow.reads {row : UsbRow} (member : row ∈ usbRows) :
    ∀ command ∈ row.commands, command.Reads .sysUsbConfig := by
  have functions : ReadsOnly .sysUsbConfig row.functions := by
    rcases (usbRows_cases row member).2 with same | same <;> simp [same]
  have selection : ∀ command ∈ row.selection, command.Reads .sysUsbConfig := by
    cases instances : row.instances <;> cases sdis : row.sdis <;> cases wceis : row.wceis <;>
      simp [UsbRow.selection, Command.Reads, functions, instances, sdis, wceis]
  have preparation : ∀ command ∈ row.preparation, command.Reads .sysUsbConfig := by
    cases stops : row.stops <;> cases ffs : row.ffs <;>
      simp [UsbRow.preparation, Command.Reads, stops, ffs]
  have activation : ∀ command ∈ row.activation, command.Reads .sysUsbConfig := by
    cases adbd : row.adbd <;> cases pclinkd : row.pclinkd <;> cases rps : row.rps <;>
      simp [UsbRow.activation, publish, Command.Reads, adbd, pclinkd, rps]
  intro command listed
  simp only [UsbRow.commands, List.mem_append, List.mem_cons] at listed
  obtain listed | rfl | rfl | rfl | listed | rfl | listed := listed
  · exact preparation command listed
  · exact readsOnly_text _ _
  · exact readsOnly_text _ _
  · exact readsOnly_text _ _
  · exact selection command listed
  · exact readsOnly_text _ _
  · exact activation command listed

/-- What a row's commands leave in a slot that no other property's actions change for good. -/
theorem UsbRow.determines {row : UsbRow} (member : row ∈ usbRows)
    {slot : Slot Path Property Service} {content : String}
    (own : ∀ properties before, properties .sysUsbConfig = row.config →
      planned (script platform).services properties slot row.commands before = content)
    (root : ∀ properties,
      planned (script platform).services properties slot adbRoot.commands content = content)
    (others : ∀ action ∈ otherActions, ∀ command ∈ action.commands,
      command.assigned (script platform).services slot = none) :
    Determines (script platform) .sysUsbConfig row.config slot content where
  reading := by
    refine initActions_cases ?_ ?_ ?_ ?_
    · exact fun _ => .of_reads disabled_reads
    · exact fun row member => .of_reads (row.reads member)
    · exact fun action member => .of_none (others action member)
    · exact .of_reads (by simp [adbRoot, Command.Reads])
  assigned := by
    rw [script_actions, commandsFor_config member]
    exact own
  kept := by
    refine initActions_cases ?_ ?_ ?_ ?_
    · exact fun _ other => absurd rfl other
    · exact fun _ _ other => absurd rfl other
    · exact fun action member _ _ _ => planned_of_none (others action member) content
    · exact fun _ properties _ => root properties

/-- What a row asks for: of the services that it starts those that init knows are up. -/
structure UsbRow.Applied (row : UsbRow) (services : List Service) (device : Device) : Prop where
  enable : device.files .enable = "1"
  idVendor : device.files .idVendor = row.idVendor
  idProduct : device.files .idProduct = row.idProduct
  functions : device.files .functions = row.functionList
  sdis : ∀ value, row.sdis = some value → device.files .sdis = value
  started : ∀ service, row.Starts service → (device.started service = true ↔ service ∈ services)
  published : device.properties .sysUsbState = row.config

section Slots

variable {row : UsbRow} {properties : Property → String} (content : String)

/-- What follows when the port is enabled writes one file at most. -/
theorem planned_activation {path : Path} (other : path ≠ .rpsCpus) :
    planned services properties (.file path) row.activation content = content := by
  refine planned_of_none ?_ content
  cases adbd : row.adbd <;> cases pclinkd : row.pclinkd <;> cases rps : row.rps <;>
    simp [UsbRow.activation, publish, Command.assigned, adbd, pclinkd, rps, other]

/-- The selection leaves the other files as they are. -/
theorem planned_selection {path : Path} (other : path ∉ [.instances, .functions, .sdis, .wceis]) :
    planned services properties (.file path) row.selection content = content := by
  refine planned_of_none ?_ content
  simp only [List.mem_cons, List.not_mem_nil, or_false, not_or] at other
  cases instances : row.instances <;> cases sdis : row.sdis <;> cases wceis : row.wceis <;>
    simp [UsbRow.selection, Command.assigned, instances, sdis, wceis, other]

/-- The selection writes the functions of the row. -/
theorem planned_functions (member : row ∈ usbRows) (set : properties .sysUsbConfig = row.config) :
    planned services properties (.file .functions) row.selection content = row.functionList := by
  have written (before : String) :
      (Command.write .functions row.functions : InitCommand).update services properties
        (.file .functions) before = row.functionList := by
    obtain ⟨nonempty, same | same⟩ := usbRows_cases row member <;>
      simp [Command.update, Command.assigned, UsbRow.functionList, expand, same, set, nonempty]
  cases instances : row.instances <;> cases sdis : row.sdis <;> cases wceis : row.wceis <;>
    simp [UsbRow.selection, written, instances, sdis, wceis]

/-- A file that only the selection writes. -/
theorem planned_commands {path : Path} (other : path ∉ [.rpsCpus, .enable, .idVendor, .idProduct])
    {final : String}
    (selects : ∀ before, planned services properties (.file path) row.selection before = final) :
    planned services properties (.file path) row.commands content = final := by
  simp only [List.mem_cons, List.not_mem_nil, or_false, not_or] at other
  simp [UsbRow.commands, planned_append, planned_activation, selects, other]

/-- The row leaves the port enabled and with its identifiers. -/
theorem planned_identifiers :
    planned services properties (.file .enable) row.commands content = "1" ∧
      planned services properties (.file .idVendor) row.commands content = row.idVendor ∧
        planned services properties (.file .idProduct) row.commands content = row.idProduct := by
  simp [UsbRow.commands, planned_append, planned_activation, planned_selection]

/-- Only the last commands decide about the services and `sys.usb.state`. -/
theorem planned_last (slot : Slot Path Property Service) {final : String}
    (activates : ∀ before, planned services properties slot row.activation before = final) :
    planned services properties slot row.commands content = final := by
  simp [UsbRow.commands, planned_append, activates]

end Slots

/-- The slots of the port, which only `sys.usb.config` and `service.adb.root` deal with. -/
def portSlots : List (Slot Path Property Service) :=
  [.file .enable, .file .idVendor, .file .idProduct, .file .functions, .file .sdis,
    .service .adbd, .service .pclinkd, .property .sysUsbState]

/-- No other action gives anything to them. -/
theorem others_unassigned {slot : Slot Path Property Service} (port : slot ∈ portSlots) :
    ∀ action ∈ otherActions, ∀ command ∈ action.commands,
      command.assigned services slot = none := by
  simp only [portSlots, List.mem_cons, List.not_mem_nil, or_false] at port
  rcases port with rfl | rfl | rfl | rfl | rfl | rfl | rfl | rfl <;>
    simp [otherActions, onValues, modeTable, exposeModem, vbusTable, persistedConfig, persistedMode,
      Command.assigned]

/-- A service that the row starts is up after its commands if init knows it. -/
theorem planned_running {row : UsbRow} {service : Service} {properties : Property → String}
    (starts : row.Starts service) (declared : service ∈ services) (content : String) :
    planned services properties (.service service) row.commands content = "running" := by
  refine planned_last content _ fun before => ?_
  rcases starts with ⟨rfl, adbd⟩ | ⟨rfl, pclinkd⟩
  · cases pclinkd : row.pclinkd <;> cases rps : row.rps <;>
      simp [UsbRow.activation, publish, Command.update, Command.assigned, adbd, pclinkd, rps,
        expand, declared]
  · cases adbd : row.adbd <;> cases rps : row.rps <;>
      simp [UsbRow.activation, publish, Command.update, Command.assigned, adbd, pclinkd, rps,
        expand, declared]

/-- `sys.usb.state` is the row's configuration after its commands. -/
theorem planned_published {row : UsbRow} (member : row ∈ usbRows) {properties : Property → String}
    (set : properties .sysUsbConfig = row.config) (content : String) :
    planned services properties (.property .sysUsbState) row.commands content = row.config := by
  have nonempty := (usbRows_cases row member).1
  refine planned_last content _ fun before => ?_
  cases adbd : row.adbd <;> cases pclinkd : row.pclinkd <;> cases rps : row.rps <;>
    simp [UsbRow.activation, publish, nonempty, set, adbd, pclinkd, rps]

/-- `sdis` is what the row says, if it says anything. -/
theorem planned_sdis {row : UsbRow} {value : String} (sdis : row.sdis = some value)
    {properties : Property → String} (content : String) :
    planned services properties (.file .sdis) row.commands content = value := by
  refine planned_commands content (by simp) fun before => ?_
  cases instances : row.instances <;> cases wceis : row.wceis <;>
    simp [UsbRow.selection, Command.update, Command.assigned, instances, sdis, wceis, expand]

/-- All slots of a row that has settled. -/
theorem UsbRow.applied {row : UsbRow} (member : row ∈ usbRows) {device : Device}
    (declares : device.Declares (script platform).services)
    (settled : ∀ slot content, Determines (script platform) .sysUsbConfig row.config slot content →
      slot ∈ portSlots → device.content slot = content) :
    row.Applied (script platform).services device := by
  have determined (slot : Slot Path Property Service) (content : String) (port : slot ∈ portSlots)
      (own : ∀ properties before, properties .sysUsbConfig = row.config →
        planned (script platform).services properties slot row.commands before = content)
      (root : ∀ properties,
        planned (script platform).services properties slot adbRoot.commands content = content) :
      device.content slot = content :=
    settled slot content (row.determines member own root (others_unassigned port)) port
  have running (service : Service) (starts : row.Starts service)
      (declared : service ∈ (script platform).services) : device.started service = true := by
    have port : .service service ∈ portSlots := by
      rcases starts with ⟨rfl, _⟩ | ⟨rfl, _⟩ <;> simp [portSlots]
    have content := determined (.service service) "running" port
      (fun _ before _ => planned_running starts declared before)
      (by simp [adbRoot])
    by_contra stopped
    simp [State.content, stopped] at content
  exact {
    enable := determined (.file .enable) _ (by simp [portSlots])
      (fun _ before _ => (planned_identifiers before).1) (by simp [adbRoot])
    idVendor := determined (.file .idVendor) _ (by simp [portSlots])
      (fun _ before _ => (planned_identifiers before).2.1) (by simp [adbRoot])
    idProduct := determined (.file .idProduct) _ (by simp [portSlots])
      (fun _ before _ => (planned_identifiers before).2.2) (by simp [adbRoot])
    functions := determined (.file .functions) _ (by simp [portSlots])
      (fun _ before set => planned_commands before (by simp) fun before =>
        planned_functions before member set) (by simp [adbRoot])
    sdis := fun value sdis => determined (.file .sdis) value (by simp [portSlots])
      (fun _ before _ => planned_sdis sdis before) (by simp [adbRoot])
    started := fun service starts => ⟨declares service, running service starts⟩
    published := determined (.property .sysUsbState) _ (by simp [portSlots])
      (fun _ before set => planned_published member set before) (by simp [adbRoot]) }

/-- Clients set any property but `sys.usb.state`, which only init sets. -/
def usbMachine (platform : List Service) : TransitionSystem (Machine Path Property Service) :=
  machine (script platform) (· ≠ .sysUsbState)

/-- Once clients leave the properties alone, init comes to rest, and then the port is as the
configuration that is set asks for. -/
theorem usb_settles {run : Nat → Machine Path Property Service}
    (start : (usbMachine platform).Reachable (run 0))
    (undisturbed : Undisturbed (script platform) run) :
    ∃ bound, ∀ time, bound ≤ time → (run time).Idle ∧ ∀ row ∈ usbRows,
      (run time).state.properties .sysUsbConfig = row.config →
        row.Applied (script platform).services (run time).state := by
  obtain ⟨bound, settled⟩ := settles initActions_ranked undisturbed start
  refine ⟨bound, fun time later => ⟨(settled time later).1, fun row member set => ?_⟩⟩
  have declares := declares_of_reachable
    (interleaved_of_reachable (undisturbed.reachable start time))
  refine row.applied member declares fun slot content determines port => ?_
  refine (settled time later).2 _ _ slot content determines (usbRows_cases row member).1 ?_ set
  rintro other reserved rfl
  simp [portSlots] at port
  exact reserved port

/-- For example after `mtp,adb` is set on a device that has just booted. -/
theorem usb_settles_mtp : ∃ run : Nat → Machine Path Property Service,
    (usbMachine [.adbd]).Reachable (run 0) ∧
      (run 0).state.properties .sysUsbConfig = "mtp,adb" ∧
        ∃ bound, ∀ time, bound ≤ time → (run time).Idle ∧ ∀ row ∈ usbRows,
          (run time).state.properties .sysUsbConfig = row.config →
            row.Applied (script [.adbd]).services (run time).state := by
  obtain ⟨run, start, undisturbed⟩ := exists_undisturbed (script [.adbd])
    ⟨State.boot.set .sysUsbConfig "mtp,adb", [⟨.sysUsbConfig, "mtp,adb"⟩], []⟩
  have reachable : (usbMachine [.adbd]).Reachable (run 0) := by
    rw [start]
    exact .step (.initial rfl) (.set (by simp))
  refine ⟨run, reachable, ?_, usb_settles reachable undisturbed⟩
  rw [start]
  rfl

end T00F.Rootdir
