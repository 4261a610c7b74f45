import T00F.Systems.Cascade
import T00F.Systems.Settling

/-!
# Actions of init

The actions on properties of `init.platform.usb.rc`, those of the AT proxy in
`init.modem.rc` and the one for `adb root` in `init.common.rc`. Of the other actions that run
when Android does, one writes one of the same files: that on `fs` also writes `adb` to
`f_ffs/aliases`. Recovery has a script of its own, `init.recovery.redhookbay.rc`, which
imports none of these.

`init.modem.rc` declares the four proxies and `atproxy_usbreset`. No file of the device
declares `adbd`, `pclinkd` or `ad_proxy`, so that which of them init knows is left to the files
that come with Android.
-/

namespace T00F.Rootdir

open Systems.Triggers

inductive Path where
  | enable -- /sys/class/android_usb/android0/enable
  | bDeviceClass -- /sys/class/android_usb/android0/bDeviceClass
  | idVendor -- /sys/class/android_usb/android0/idVendor
  | idProduct -- /sys/class/android_usb/android0/idProduct
  | functions -- /sys/class/android_usb/android0/functions
  | aliases -- /sys/class/android_usb/android0/f_ffs/aliases
  | instances -- /sys/class/android_usb/android0/f_acm/instances
  | wceis -- /sys/class/android_usb/f_rndis/wceis
  | sdis -- /sys/bus/pci/devices/0000:00:02.3/sdis
  | rpsCpus -- /sys/class/net/rndis0/queues/rx-0/rps_cpus
  | aBusDrop -- /sys/class/usb_otg/otg0/a_bus_drop
deriving DecidableEq, Repr

inductive Property where
  | sysUsbConfig
  | sysUsbState
  | sysUsbVbus
  | persistSysUsbConfig
  | serviceAdbRoot
  | systemAtProxyMode
  | persistSystemAtProxyMode
  | other (name : String)
deriving DecidableEq, Repr

inductive Service where
  | adbd
  | pclinkd
  | proxy
  | proxy2
  | proxyTunneling
  | proxyTunneling2
  | adProxy
  | atproxyUsbreset
deriving DecidableEq, Repr

abbrev InitCommand := Command Path Property Service

abbrev InitActions := Actions Path Property Service

abbrev InitScript := Script Path Property Service

/-! ## `init.platform.usb.rc` -/

/-- `setprop sys.usb.state ${sys.usb.config}` -/
def publish : InitCommand := .setprop .sysUsbState [.property .sysUsbConfig]

/-- The commands for `none` and `mass_storage`, which only disable the port. -/
def disabled : List InitCommand :=
  [.stop .adbd, .stop .pclinkd, .write .enable [.text "0"], .write .bDeviceClass [.text "0"],
    publish]

/-- What the other actions on `sys.usb.config` differ in. -/
structure UsbRow where
  config : String
  idVendor : String
  idProduct : String
  functions : List (Piece Property) := [.property .sysUsbConfig]
  sdis : Option String
  stops : Bool := false
  ffs : Bool := false
  instances : Bool := false
  wceis : Bool := false
  adbd : Bool := false
  pclinkd : Bool := false
  rps : Bool := false

namespace UsbRow

variable (row : UsbRow)

/-- Up to where the port is disabled. -/
def preparation : List InitCommand :=
  (if row.stops then [.stop .adbd, .stop .pclinkd] else []) ++
    (if row.ffs then
      [.other "mkdir /dev/usb-ffs 0770 shell shell",
        .other "mkdir /dev/usb-ffs/adb 0770 shell shell",
        .other "mount functionfs adb /dev/usb-ffs/adb uid=2000,gid=2000",
        .write .aliases [.text "adb"]]
    else [])

/-- The services that the row starts. -/
def Starts (service : Service) : Prop :=
  service = .adbd ∧ row.adbd = true ∨ service = .pclinkd ∧ row.pclinkd = true

/-- Between the identifiers and where the port is enabled again. -/
def selection : List InitCommand :=
  (if row.instances then [.write .instances [.text "1"]] else []) ++
    [.write .functions row.functions] ++
    (row.sdis.toList.map fun value => .write .sdis [.text value]) ++
    (if row.wceis then [.write .wceis [.text "1"]] else [])

/-- What follows when the port is enabled. -/
def activation : List InitCommand :=
  (if row.adbd then [.start .adbd] else []) ++ (if row.pclinkd then [.start .pclinkd] else []) ++
    [publish] ++
    (if row.rps then
      [.other "wait /sys/class/net/rndis0/queues/rx-0/rps_cpus 1", .write .rpsCpus [.text "F"]]
    else [])

def commands : List InitCommand :=
  row.preparation ++
    (.write .enable [.text "0"] :: .write .idVendor [.text row.idVendor] ::
      .write .idProduct [.text row.idProduct] ::
      (row.selection ++ (.write .enable [.text "1"] :: row.activation)))

end UsbRow

/-- The actions on `sys.usb.config` that enable the port, in the order of the file. -/
def usbRows : List UsbRow := [
  { config := "iadb", idVendor := "8087", idProduct := "0a21",
    functions := [.text "mtp,adb"], sdis := some "1", ffs := true, adbd := true },
  { config := "adb,mass_storage", idVendor := "18d1", idProduct := "4EE7", sdis := none,
    adbd := true },
  { config := "pclink", idVendor := "0B05", idProduct := "5F01", sdis := some "1",
    pclinkd := true },
  { config := "pclink,mass_storage", idVendor := "0B05", idProduct := "5F01", sdis := some "1",
    pclinkd := true },
  { config := "charging", idVendor := "8087", idProduct := "0a21",
    functions := [.text "mtp,adb"], sdis := some "1", stops := true },
  { config := "accessory", idVendor := "18d1", idProduct := "2d00", sdis := some "0" },
  { config := "accessory,adb", idVendor := "18d1", idProduct := "2d01", sdis := none,
    adbd := true },
  { config := "audio_source", idVendor := "18d1", idProduct := "2d02", sdis := some "0" },
  { config := "audio_source,adb", idVendor := "18d1", idProduct := "2d03", sdis := some "0",
    adbd := true },
  { config := "accessory,audio_source", idVendor := "18d1", idProduct := "2d04",
    sdis := some "0" },
  { config := "accessory,audio_source,adb", idVendor := "18d1", idProduct := "2d05",
    sdis := some "0", adbd := true },
  { config := "mtp", idVendor := "0b05", idProduct := "5600", sdis := some "0" },
  { config := "mtp,mass_storage", idVendor := "0b05", idProduct := "5600", sdis := some "0" },
  { config := "mtp,adb", idVendor := "0b05", idProduct := "5601", sdis := some "1",
    adbd := true },
  { config := "mtp,adb,mass_storage", idVendor := "0b05", idProduct := "5601",
    sdis := some "1", adbd := true },
  { config := "mtp,pclink", idVendor := "0B05", idProduct := "5F02", sdis := some "1",
    pclinkd := true },
  { config := "mtp,pclink,mass_storage", idVendor := "0B05", idProduct := "5F02",
    sdis := some "1", pclinkd := true },
  { config := "mtp,adb,pclink", idVendor := "0B05", idProduct := "5F03", sdis := some "1",
    adbd := true, pclinkd := true },
  { config := "mtp,adb,pclink,mass_storage", idVendor := "0B05", idProduct := "5F03",
    sdis := some "1", adbd := true, pclinkd := true },
  { config := "ptp", idVendor := "0b05", idProduct := "5604", sdis := some "0" },
  { config := "ptp,mass_storage", idVendor := "0b05", idProduct := "5604", sdis := some "0" },
  { config := "ptp,adb", idVendor := "0b05", idProduct := "5605", sdis := some "1",
    adbd := true },
  { config := "ptp,adb,mass_storage", idVendor := "0b05", idProduct := "5605",
    sdis := some "1", adbd := true },
  { config := "ptp,pclink", idVendor := "0B05", idProduct := "5F06", sdis := some "1",
    pclinkd := true },
  { config := "ptp,pclink,mass_storage", idVendor := "0B05", idProduct := "5F06",
    sdis := some "1", pclinkd := true },
  { config := "ptp,adb,pclink", idVendor := "0B05", idProduct := "5F07", sdis := some "1",
    adbd := true, pclinkd := true },
  { config := "ptp,adb,pclink,mass_storage", idVendor := "0B05", idProduct := "5F07",
    sdis := some "1", adbd := true, pclinkd := true },
  { config := "rndis", idVendor := "0b05", idProduct := "5602", sdis := some "0",
    wceis := true, rps := true },
  { config := "rndis,mass_storage", idVendor := "0b05", idProduct := "5602", sdis := some "0",
    wceis := true, rps := true },
  { config := "rndis,adb", idVendor := "0b05", idProduct := "5603", sdis := some "1",
    wceis := true, adbd := true, rps := true },
  { config := "rndis,adb,mass_storage", idVendor := "0b05", idProduct := "5603",
    sdis := some "1", wceis := true, adbd := true, rps := true },
  { config := "rndis,pclink", idVendor := "0B05", idProduct := "5F04", sdis := some "1",
    wceis := true, pclinkd := true, rps := true },
  { config := "rndis,pclink,mass_storage", idVendor := "0B05", idProduct := "5F04",
    sdis := some "1", wceis := true, pclinkd := true, rps := true },
  { config := "rndis,adb,pclink", idVendor := "0B05", idProduct := "5F05", sdis := some "1",
    wceis := true, adbd := true, pclinkd := true, rps := true },
  { config := "rndis,adb,pclink,mass_storage", idVendor := "0B05", idProduct := "5F05",
    sdis := some "1", wceis := true, adbd := true, pclinkd := true, rps := true },
  { config := "rndis,acm,adb", idVendor := "8087", idProduct := "0a26", sdis := some "1",
    instances := true, adbd := true, rps := true }]

def usbTable : List (String × List InitCommand) :=
  ("none", disabled) :: ("mass_storage", disabled) ::
    usbRows.map fun row => (row.config, row.commands)

/-- `persist.sys.usb.config=*` -/
def persistedConfig : Action Path Property Service where
  name := .persistSysUsbConfig
  value := none
  commands := [.setprop .sysUsbConfig [.property .persistSysUsbConfig]]

def vbusTable : List (String × List InitCommand) :=
  [("normal", [.write .aBusDrop [.text "0"]]), ("warning", [.write .aBusDrop [.text "0"]]),
    ("critical", [.write .aBusDrop [.text "1"]])]

/-! ## `init.modem.rc` and `init.common.rc` -/

/-- `persist.system.at-proxy.mode=*` -/
def persistedMode : Action Path Property Service where
  name := .persistSystemAtProxyMode
  value := none
  commands := [.setprop .systemAtProxyMode [.property .persistSystemAtProxyMode]]

/-- `setprop sys.usb.config rndis,acm,adb` -/
def exposeModem : InitCommand := .setprop .sysUsbConfig [.text "rndis,acm,adb"]

/-- The actions on `system.at-proxy.mode`. -/
def modeTable : List (String × List InitCommand) :=
  [("0", [.stop .proxy, .stop .proxy2, .stop .proxyTunneling, .stop .proxyTunneling2,
      .start .atproxyUsbreset]),
    ("1", [.stop .adProxy, .stop .proxyTunneling, .stop .proxyTunneling2, .stop .proxy2,
      exposeModem, .start .proxy]),
    ("2", [.stop .adProxy, .stop .proxy, .stop .proxy2, .stop .proxyTunneling2, exposeModem,
      .start .proxyTunneling]),
    ("3", [.stop .proxyTunneling, .stop .proxyTunneling2, .stop .proxy, exposeModem,
      .start .proxy2]),
    ("4", [.stop .proxy, .stop .proxy2, .stop .proxyTunneling, exposeModem,
      .start .proxyTunneling2])]

/-- `service.adb.root=1` -/
def adbRoot : Action Path Property Service where
  name := .serviceAdbRoot
  value := some "1"
  commands :=
    [.write .enable [.text "0"], .restart .adbd, .write .enable [.text "1"]]

/-- What does not deal with the port itself. -/
def otherActions : InitActions :=
  onValues .systemAtProxyMode modeTable ++ onValues .sysUsbVbus vbusTable ++
    [persistedConfig, persistedMode]

def initActions : InitActions := onValues .sysUsbConfig usbTable ++ otherActions ++ [adbRoot]

/-- The services of `init.modem.rc`. -/
def modemServices : List Service :=
  [.proxy, .proxyTunneling, .proxy2, .proxyTunneling2, .atproxyUsbreset]

/-- With the services that other files declare. -/
def script (platform : List Service) : InitScript where
  services := modemServices ++ platform
  actions := initActions

@[simp]
theorem script_actions (platform : List Service) : (script platform).actions = initActions :=
  rfl

/-- A row's action is in the table. -/
theorem usbTable_row {row : UsbRow} (member : row ∈ usbRows) :
    (row.config, row.commands) ∈ usbTable :=
  List.mem_cons_of_mem _ (List.mem_cons_of_mem _ (List.mem_map.mpr ⟨row, member, rfl⟩))

/-- No configuration has two actions. -/
theorem usbTable_distinct : (usbTable.map Prod.fst).Nodup := by
  decide

/-- No mode has two actions. -/
theorem modeTable_distinct : (modeTable.map Prod.fst).Nodup := by
  decide

/-- The actions of the script, group by group. -/
theorem initActions_cases {Holds : Action Path Property Service → Prop}
    (off : ∀ config, Holds ⟨.sysUsbConfig, config, disabled⟩)
    (row : ∀ row ∈ usbRows, Holds ⟨.sysUsbConfig, some row.config, row.commands⟩)
    (others : ∀ action ∈ otherActions, Holds action) (root : Holds adbRoot) :
    ∀ action ∈ initActions, Holds action := by
  intro action member
  simp only [initActions, onValues, usbTable, List.mem_append, List.mem_map, List.mem_cons,
    List.not_mem_nil, or_false] at member
  obtain (⟨_, rfl | rfl | ⟨usbRow, member, rfl⟩, rfl⟩ | member) | rfl := member
  · exact off _
  · exact off _
  · exact row usbRow member
  · exact others action member
  · exact root

/-- Which properties the actions on a property may set: only those of a lower rank. -/
def Property.rank : Property → Nat
  | .persistSystemAtProxyMode => 3
  | .systemAtProxyMode => 2
  | .persistSysUsbConfig => 2
  | .sysUsbConfig => 1
  | _ => 0

/-- To disable the port only `sys.usb.state` is set. -/
theorem disabled_ranked {name : Property} {value : List (Piece Property)}
    (member : .setprop name value ∈ disabled) : name.rank = 0 := by
  obtain ⟨rfl, -⟩ : name = .sysUsbState ∧ value = [.property .sysUsbConfig] := by
    simpa [disabled, publish] using member
  rfl

/-- To enable it, too. -/
theorem UsbRow.commands_ranked {row : UsbRow} {name : Property} {value : List (Piece Property)}
    (member : .setprop name value ∈ row.commands) : name.rank = 0 := by
  obtain ⟨rfl, -⟩ : name = .sysUsbState ∧ value = [.property .sysUsbConfig] := by
    simpa [UsbRow.commands, UsbRow.preparation, UsbRow.selection, UsbRow.activation, publish]
      using member
  rfl

/-- Actions only set properties of a lower rank. -/
theorem initActions_ranked : Ranked Property.rank initActions := by
  refine initActions_cases ?_ ?_ ?_ ?_
  · intro _ name value member
    rw [disabled_ranked member]
    exact Nat.one_pos
  · intro row _ name value member
    rw [row.commands_ranked member]
    exact Nat.one_pos
  · simp +contextual [otherActions, onValues, modeTable, exposeModem, vbusTable, persistedConfig,
      persistedMode, Property.rank]
  · simp [adbRoot]

end T00F.Rootdir
