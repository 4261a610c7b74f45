import T00F.Rootdir.Actions
import T00F.Systems.Exclusion

/-!
# The AT proxy

Four services talk to the modem in place of each other. `proxy_alone` says that init never
keeps two of them up at once, not even while it goes from one mode to another, and
`mode_settles` that in the end just the one of the mode that is set is up.
-/

namespace T00F.Rootdir

open Systems Systems.Triggers

/-- The services that open the modem's AT channels. -/
def proxies : List Service := [.proxy, .proxy2, .proxyTunneling, .proxyTunneling2]

/-- Every action stops the other proxies before it starts one. -/
theorem initActions_exclusive :
    ∀ action ∈ initActions, exclusive proxies [] action.commands = true := by
  decide +kernel

variable {platform : List Service}

/-- In whatever order the actions run and whenever properties are set meanwhile, no two proxies are
up at once. -/
theorem proxy_alone {reached : State Path Property Service × List InitCommand}
    (reachable : (interleaved (script platform)).Reachable reached) :
    Alone proxies reached.1.started :=
  alone_of_exclusive initActions_exclusive reachable

/-- For example after the action for the third mode. -/
theorem proxy_alone_three : ∃ device : State Path Property Service,
    device.started .proxy2 = true ∧ Alone proxies device.started := by
  have known : [⟨.systemAtProxyMode, some "3", [.stop .proxyTunneling, .stop .proxyTunneling2,
      .stop .proxy, exposeModem, .start .proxy2]⟩] ⊆ (script [.adbd]).actions := by
    simp [initActions, otherActions, onValues, modeTable]
  have reachable := reachable_finish ((TransitionSystem.Reachable.initial rfl).step (.start known))
  refine ⟨_, ?_, proxy_alone reachable⟩
  simp [State.perform, State.start, script, modemServices]

/-- The modes and the proxy of each. -/
def modes : List (String × Option Service) :=
  [("0", none), ("1", some .proxy), ("2", some .proxyTunneling), ("3", some .proxy2),
    ("4", some .proxyTunneling2)]

/-- What `init.svc` says of a service that is up or not. -/
def upText (up : Bool) : String := if up then "running" else "stopped"

/-- Just the action for its value runs when the mode is set. -/
theorem commandsFor_mode {row : String × List InitCommand} (member : row ∈ modeTable) :
    commandsFor initActions ⟨.systemAtProxyMode, row.1⟩ = row.2 := by
  have usb : commandsFor (onValues .sysUsbConfig usbTable)
      ⟨Property.systemAtProxyMode, row.1⟩ = [] := by
    refine commandsFor_of_other fun action listed => ?_
    obtain ⟨_, _, rfl⟩ := List.mem_map.mp listed
    simp
  have others : commandsFor (onValues .sysUsbVbus vbusTable ++ [persistedConfig, persistedMode] ++
      [adbRoot]) ⟨Property.systemAtProxyMode, row.1⟩ = [] := by
    refine commandsFor_of_other ?_
    simp [onValues, vbusTable, persistedConfig, persistedMode, adbRoot]
  rw [initActions, otherActions, List.append_assoc, commandsFor_append, usb, List.nil_append,
    List.append_assoc, List.append_assoc, commandsFor_append, ← List.append_assoc, others,
    List.append_nil]
  exact commandsFor_onValues modeTable_distinct member

/-- No action on another property deals with a proxy. -/
theorem mode_kept : ∀ action ∈ initActions, action.name ≠ .systemAtProxyMode →
    ∀ service ∈ proxies, ∀ command ∈ action.commands, command.target ≠ some (.service service) := by
  decide +kernel

/-- The action for a mode leaves its proxy up and the others down. -/
theorem planned_modes : ∀ mode ∈ modes, ∃ commands, (mode.1, commands) ∈ modeTable ∧
    ∀ service ∈ proxies, ∀ properties before,
      planned (script platform).services properties (.service service) commands before =
        upText (mode.2 = some service) := by
  simp [modes, modeTable, proxies, upText, exposeModem, Command.update, Command.assigned, expand,
    script, modemServices]

/-- A mode decides about each of the proxies. -/
theorem mode_determines {mode : String × Option Service} (member : mode ∈ modes) {service : Service}
    (listed : service ∈ proxies) :
    Determines (script platform) .systemAtProxyMode mode.1 (.service service)
      (upText (mode.2 = some service)) where
  reading action _ := .service _ _ service action.commands
  assigned := by
    obtain ⟨commands, row, leaves⟩ := planned_modes mode member
    rw [script_actions, commandsFor_mode row]
    exact fun properties before _ => leaves service listed properties before
  kept action known other properties _ := planned_of_none (fun command written =>
    assigned_of_target_ne (mode_kept action known other service listed command written)) _

theorem upText_inj {up other : Bool} (same : upText up = upText other) : up = other := by
  cases up <;> cases other <;> first | rfl | exact absurd same (by decide)

/-- Once clients leave the properties alone, init comes to rest, and then the proxy of the mode that
is set is up and no other. -/
theorem mode_settles {Settable : Property → Prop} {run : Nat → Machine Path Property Service}
    (start : (machine (script platform) Settable).Reachable (run 0))
    (undisturbed : Undisturbed (script platform) run) :
    ∃ bound, ∀ time, bound ≤ time → (run time).Idle ∧ ∀ mode ∈ modes,
      (run time).state.properties .systemAtProxyMode = mode.1 → ∀ service ∈ proxies,
        ((run time).state.started service = true ↔ mode.2 = some service) := by
  obtain ⟨bound, settled⟩ := settles initActions_ranked undisturbed start
  refine ⟨bound, fun time later => ⟨(settled time later).1, ?_⟩⟩
  intro mode member set service listed
  have nonempty : mode.1 ≠ "" := by
    revert mode
    simp [modes]
  have content := (settled time later).2 _ _ _ _ (mode_determines member listed) nonempty
    (fun _ _ => nofun) set
  have up : (run time).state.started service = decide (mode.2 = some service) := upText_inj content
  rw [up, decide_eq_true_iff]

/-- For example in the third mode. -/
theorem mode_settles_three : ∃ run : Nat → Machine Path Property Service,
    (machine (script [.adbd]) fun _ => True).Reachable (run 0) ∧
      (run 0).state.properties .systemAtProxyMode = "3" ∧ ∃ bound, ∀ time, bound ≤ time →
        (run time).Idle ∧ ∀ mode ∈ modes,
          (run time).state.properties .systemAtProxyMode = mode.1 → ∀ service ∈ proxies,
            ((run time).state.started service = true ↔ mode.2 = some service) := by
  obtain ⟨run, start, undisturbed⟩ := exists_undisturbed (script [.adbd])
    ⟨State.boot.set .systemAtProxyMode "3", [⟨.systemAtProxyMode, "3"⟩], []⟩
  have reachable : (machine (script [.adbd]) fun _ => True).Reachable (run 0) := by
    rw [start]
    exact .step (.initial rfl) (.set trivial)
  refine ⟨run, reachable, ?_, mode_settles reachable undisturbed⟩
  rw [start]
  rfl

end T00F.Rootdir
