/-
What a reload must not change.

A reload compares what is read at boot as text: a listener by its name, address, workers and
TLS settings with bars between them, the others as they are printed for debugging. The name
stands there as it is, and a path is quoted with an escaping that is a parameter here.
-/

import Pavis.Config.Address
import Pavis.Config.Runtime
import Pavis.Library.QuotedText

namespace Pavis.Config

open ByteText DigitText QuotedText

def stringQuoting : Quoting UInt8 where
  quote := ascii '"'
  escape := ascii '\\'
  distinct := by decide

/-- How the standard library escapes a string. -/
abbrev StringEscaping := Escaping stringQuoting

def WorkerCount.debug : WorkerCount → Text
  | .auto => literal "Auto"
  | .count workers => literal "Count(" ++ decimal workers.value ++ literal ")"

def pathDebug (escaping : StringEscaping) (path : Text) : Text :=
  literal "Path(" ++ escaping.quoted path ++ literal ")"

def ClientAuth.debug (escaping : StringEscaping) : ClientAuth → Text
  | .disabled => literal "Disabled"
  | .optional caPath =>
    literal "Optional \x7b ca_path: " ++ pathDebug escaping caPath ++ literal " \x7d"
  | .required caPath =>
    literal "Required \x7b ca_path: " ++ pathDebug escaping caPath ++ literal " \x7d"

def TlsConfig.debug (escaping : StringEscaping) : TlsConfig → Text
  | .disabled => literal "Disabled"
  | .enabled certPath keyPath clientAuth =>
    literal "Enabled \x7b cert_path: " ++ pathDebug escaping certPath ++
      literal ", key_path: " ++ pathDebug escaping keyPath ++
      literal ", client_auth: " ++ clientAuth.debug escaping ++ literal " \x7d"

def endpointDebug : Option SocketAddr → Text
  | none => literal "Disabled"
  | some addr => literal "Enabled \x7b addr: " ++ addr.display ++ literal " \x7d"

def AdminConfig.addr : AdminConfig → Option SocketAddr
  | .disabled => none
  | .enabled addr => some addr

def AdminConfig.debug (admin : AdminConfig) : Text := endpointDebug admin.addr

def ShutdownPolicy.debug : ShutdownPolicy → Text
  | .disabled => literal "Disabled"
  | .enabled drainTimeout =>
    literal "Enabled \x7b drain_timeout: Duration(" ++ decimal drainTimeout.value ++
      literal ") \x7d"

def Metrics.addr : Metrics → Option SocketAddr
  | .disabled => none
  | .enabled addr => some addr

def Metrics.debug (metrics : Metrics) : Text := endpointDebug metrics.addr

def AccessLogPolicy.debug (escaping : StringEscaping) : AccessLogPolicy → Text
  | .disabled => literal "Disabled"
  | .stdout => literal "Stdout"
  | .file path => literal "File(" ++ pathDebug escaping path ++ literal ")"

def Listener.fingerprint (escaping : StringEscaping) (listener : Listener) : Text :=
  listener.name ++ literal "|" ++ listener.address.display ++ literal "|" ++
    listener.workers.debug ++ literal "|" ++ listener.tls.debug escaping

def listenerFingerprint (escaping : StringEscaping) (config : RuntimeConfig) : List Text :=
  config.listeners.map (Listener.fingerprint escaping)

structure ReloadSafetyError where
  changedFields : List Text
  deriving DecidableEq

def changedField {β : Type} [DecidableEq β] (field : Text) (current next : β) : List Text :=
  if current ≠ next then [field] else []

def changedFields (escaping : StringEscaping) (current next : RuntimeConfig) : List Text :=
  changedField (literal "listeners") (listenerFingerprint escaping current)
    (listenerFingerprint escaping next) ++
  changedField (literal "admin") current.admin.debug next.admin.debug ++
  changedField (literal "shutdown") current.shutdown.debug next.shutdown.debug ++
  changedField (literal "telemetry.metrics") current.telemetry.metrics.debug
    next.telemetry.metrics.debug ++
  changedField (literal "telemetry.access_log") (current.telemetry.accessLog.debug escaping)
    (next.telemetry.accessLog.debug escaping)

def ensureRuntimeReloadSafe (escaping : StringEscaping) (current next : RuntimeConfig) :
    Except ReloadSafetyError Unit :=
  if changedFields escaping current next = [] then .ok ()
  else .error { changedFields := changedFields escaping current next }

theorem ne_append_of_heads {first second secondRest : Text} (nonempty : second ≠ [])
    (heads : first.head? ≠ second.head?) : first ≠ second ++ secondRest := by
  rintro rfl
  exact heads (List.head?_append_of_ne_nil _ nonempty)

private theorem append_ne_append_of_heads {first second firstRest secondRest : Text}
    (nonempty : first ≠ [] ∧ second ≠ []) (heads : first.head? ≠ second.head?) :
    first ++ firstRest ≠ second ++ secondRest := by
  apply ne_append_of_heads nonempty.2
  rwa [List.head?_append_of_ne_nil _ nonempty.1]

theorem decimal_injective : Function.Injective decimal := by
  intro first second same
  have values := congrArg (valueOf 10) same
  rwa [show decimal first = spell 10 first from rfl, show decimal second = spell 10 second from rfl,
    valueOf_spell (by decide) (by decide), valueOf_spell (by decide) (by decide)] at values

theorem NonZero.eq_of_value {bits : Nat} {first second : NonZero bits}
    (same : first.value = second.value) : first = second := by
  cases first
  cases second
  cases same
  rfl

theorem SocketAddr.display_inj {first second : SocketAddr} (one : first.WellFormed)
    (other : second.WellFormed) (same : first.display = second.display) : first = second := by
  have parsed := parse_display one
  rw [same, parse_display other] at parsed
  exact (Option.some.inj parsed).symm

section

variable (escaping : StringEscaping)

theorem pathDebug_append_inj {first second firstRest secondRest : Text}
    (same : pathDebug escaping first ++ firstRest = pathDebug escaping second ++ secondRest) :
    first = second ∧ firstRest = secondRest := by
  simp only [pathDebug, List.append_assoc] at same
  obtain ⟨paths, rests⟩ := escaping.quoted_append_inj (List.append_cancel_left same)
  exact ⟨paths, List.append_cancel_left rests⟩

theorem ClientAuth.debug_append_inj {first second : ClientAuth} {firstRest secondRest : Text}
    (same : first.debug escaping ++ firstRest = second.debug escaping ++ secondRest) :
    first = second ∧ firstRest = secondRest := by
  cases first <;> cases second <;> simp only [debug, List.append_assoc] at same
  case disabled.disabled => exact ⟨rfl, List.append_cancel_left same⟩
  case optional.optional | required.required =>
      obtain ⟨rfl, rests⟩ := pathDebug_append_inj escaping (List.append_cancel_left same)
      exact ⟨rfl, List.append_cancel_left rests⟩
  all_goals exact absurd same (append_ne_append_of_heads (by decide) (by decide))

theorem TlsConfig.debug_injective : Function.Injective (debug escaping) := by
  intro first second same
  cases first <;> cases second <;> simp only [debug, List.append_assoc] at same
  case disabled.disabled => rfl
  case enabled.enabled =>
      obtain ⟨rfl, afterCert⟩ := pathDebug_append_inj escaping (List.append_cancel_left same)
      obtain ⟨rfl, afterKey⟩ := pathDebug_append_inj escaping (List.append_cancel_left afterCert)
      obtain ⟨rfl, _⟩ := ClientAuth.debug_append_inj escaping (List.append_cancel_left afterKey)
      rfl
  case disabled.enabled => exact absurd same (ne_append_of_heads (by decide) (by decide))
  case enabled.disabled => exact absurd same.symm (ne_append_of_heads (by decide) (by decide))

theorem AccessLogPolicy.debug_injective : Function.Injective (debug escaping) := by
  intro first second same
  cases first <;> cases second <;> simp only [debug, List.append_assoc] at same
  case disabled.disabled | stdout.stdout => rfl
  case file.file =>
      obtain ⟨rfl, _⟩ := pathDebug_append_inj escaping (List.append_cancel_left same)
      rfl
  case disabled.file | stdout.file =>
      exact absurd same (ne_append_of_heads (by decide) (by decide))
  case file.disabled | file.stdout =>
      exact absurd same.symm (ne_append_of_heads (by decide) (by decide))
  all_goals exact absurd same (by decide)

end

theorem WorkerCount.debug_injective : Function.Injective debug := by
  intro first second same
  cases first <;> cases second <;> simp only [debug, List.append_assoc] at same
  case auto.auto => rfl
  case count.count =>
      have digits := List.append_cancel_right (List.append_cancel_left same)
      rw [NonZero.eq_of_value (decimal_injective digits)]
  case auto.count => exact absurd same (ne_append_of_heads (by decide) (by decide))
  case count.auto => exact absurd same.symm (ne_append_of_heads (by decide) (by decide))

theorem ShutdownPolicy.debug_injective : Function.Injective debug := by
  intro first second same
  cases first <;> cases second <;> simp only [debug, List.append_assoc] at same
  case disabled.disabled => rfl
  case enabled.enabled =>
      have digits := List.append_cancel_right (List.append_cancel_left same)
      rw [NonZero.eq_of_value (decimal_injective digits)]
  case disabled.enabled => exact absurd same (ne_append_of_heads (by decide) (by decide))
  case enabled.disabled => exact absurd same.symm (ne_append_of_heads (by decide) (by decide))

private theorem endpointDebug_inj {first second : Option SocketAddr}
    (one : ∀ addr ∈ first, addr.WellFormed) (other : ∀ addr ∈ second, addr.WellFormed)
    (same : endpointDebug first = endpointDebug second) : first = second := by
  cases first <;> cases second <;> simp only [endpointDebug, List.append_assoc] at same
  case none.none => rfl
  case some.some =>
      have shown := List.append_cancel_right (List.append_cancel_left same)
      rw [SocketAddr.display_inj (one _ rfl) (other _ rfl) shown]
  case none.some => exact absurd same (ne_append_of_heads (by decide) (by decide))
  case some.none => exact absurd same.symm (ne_append_of_heads (by decide) (by decide))

theorem AdminConfig.addr_injective : Function.Injective addr := by
  intro first second same
  cases first <;> cases second <;> cases same <;> rfl

theorem Metrics.addr_injective : Function.Injective addr := by
  intro first second same
  cases first <;> cases second <;> cases same <;> rfl

/-! ### Fingerprints -/

/-- A byte that is neither quoted nor a bar. -/
def Unquoted (byte : UInt8) : Prop := stringQuoting.Plain byte ∧ byte ≠ ascii '|'

instance (byte : UInt8) : Decidable (Unquoted byte) :=
  inferInstanceAs (Decidable (_ ∧ _))

theorem unquoted_of_addressByte {byte : UInt8} (address : isAddressByte byte = true) :
    Unquoted byte := by
  refine ⟨⟨?_, ?_⟩, ?_⟩ <;> rintro rfl <;> exact absurd address (by decide)

theorem decimal_unquoted (number : Nat) : ∀ byte ∈ decimal number, Unquoted byte := by
  intro byte member
  exact unquoted_of_addressByte
    (isAddressByte_of_digit (by decide) (decimal_digits number byte member))

theorem SocketAddr.display_unquoted (address : SocketAddr) :
    ∀ byte ∈ address.display, Unquoted byte := by
  have ip : ∀ byte ∈ address.ip.display, Unquoted byte := fun byte member =>
    unquoted_of_addressByte (display_addressBytes address.ip byte member)
  have zone : ∀ byte ∈ (if address.scopeId = 0 then [] else
      literal "%" ++ decimal address.scopeId), Unquoted byte := by
    split
    · decide
    · exact List.forall_mem_append.mpr ⟨by decide, decimal_unquoted _⟩
  unfold display
  split
  · exact List.forall_mem_append.mpr
      ⟨List.forall_mem_append.mpr ⟨ip, by decide⟩, decimal_unquoted _⟩
  · have bracketed : ∀ byte ∈ literal "[" ++ address.ip.display, Unquoted byte :=
      List.forall_mem_append.mpr ⟨by decide, ip⟩
    have zoned := List.forall_mem_append.mpr ⟨bracketed, zone⟩
    exact List.forall_mem_append.mpr
      ⟨List.forall_mem_append.mpr ⟨zoned, by decide⟩, decimal_unquoted _⟩

theorem WorkerCount.debug_unquoted (workers : WorkerCount) :
    ∀ byte ∈ workers.debug, Unquoted byte := by
  cases workers with
  | auto => decide
  | count =>
    exact List.forall_mem_append.mpr
      ⟨List.forall_mem_append.mpr ⟨by decide, decimal_unquoted _⟩, by decide⟩

section

variable (escaping : StringEscaping)

theorem pathDebug_marked (path : Text) {count : Nat} {rest : Text}
    (later : stringQuoting.Marked (ascii '|') count rest) :
    stringQuoting.Marked (ascii '|') count (pathDebug escaping path ++ rest) := by
  simp only [pathDebug, List.append_assoc]
  refine .append_plain (by decide) (escaping.marked_quoted path ?_)
  exact .append_plain (by decide) later

theorem ClientAuth.debug_marked (clientAuth : ClientAuth) {count : Nat} {rest : Text}
    (later : stringQuoting.Marked (ascii '|') count rest) :
    stringQuoting.Marked (ascii '|') count (clientAuth.debug escaping ++ rest) := by
  cases clientAuth with
  | disabled =>
    rw [debug]
    exact .append_plain (by decide) later
  | optional caPath | required caPath =>
    simp only [debug, List.append_assoc]
    refine .append_plain (by decide) (pathDebug_marked escaping caPath ?_)
    exact .append_plain (by decide) later

theorem TlsConfig.debug_marked (tls : TlsConfig) :
    stringQuoting.Marked (ascii '|') 0 (tls.debug escaping) := by
  rw [← List.append_nil (tls.debug escaping)]
  cases tls with
  | disabled =>
    rw [debug]
    exact .append_plain (by decide) .nil
  | enabled certPath keyPath clientAuth =>
    simp only [debug, List.append_assoc]
    refine .append_plain (by decide) (pathDebug_marked escaping certPath ?_)
    refine .append_plain (by decide) (pathDebug_marked escaping keyPath ?_)
    refine .append_plain (by decide) (clientAuth.debug_marked escaping ?_)
    exact .append_plain (by decide) .nil

def Listener.settings (listener : Listener) : Text :=
  listener.address.display ++ ascii '|' :: (listener.workers.debug ++
    ascii '|' :: listener.tls.debug escaping)

theorem Listener.fingerprint_eq (listener : Listener) :
    listener.fingerprint escaping = listener.name ++ ascii '|' :: listener.settings escaping := by
  unfold fingerprint settings
  simp only [List.append_assoc]
  rfl

theorem Listener.settings_marked (listener : Listener) :
    stringQuoting.Marked (ascii '|') 2 (listener.settings escaping) := by
  refine .append_plain listener.address.display_unquoted (.marked ?_)
  refine .append_plain listener.workers.debug_unquoted (.marked ?_)
  exact listener.tls.debug_marked escaping

private theorem append_bar_inj {first second firstRest secondRest : Text}
    (one : ∀ byte ∈ first, Unquoted byte) (other : ∀ byte ∈ second, Unquoted byte)
    (same : first ++ ascii '|' :: firstRest = second ++ ascii '|' :: secondRest) :
    first = second ∧ firstRest = secondRest := by
  have apart : ∀ {text : Text}, (∀ byte ∈ text, Unquoted byte) →
      contains text (ascii '|') = false := by
    intro text unquoted
    exact contains_eq_false.mpr fun member => (unquoted _ member).2 rfl
  have split := splitOnce_append (apart one) firstRest
  rw [same, splitOnce_append (apart other)] at split
  cases split
  exact ⟨rfl, rfl⟩

theorem Listener.fingerprint_inj {first second : Listener} (one : first.address.WellFormed)
    (other : second.address.WellFormed)
    (same : first.fingerprint escaping = second.fingerprint escaping) : first = second := by
  rw [fingerprint_eq, fingerprint_eq] at same
  obtain ⟨names, settings⟩ := Quoting.Marked.append_mark_inj (by decide)
    (first.settings_marked escaping) (second.settings_marked escaping) same
  obtain ⟨addresses, afterAddress⟩ := append_bar_inj first.address.display_unquoted
    second.address.display_unquoted settings
  obtain ⟨workers, tls⟩ := append_bar_inj first.workers.debug_unquoted
    second.workers.debug_unquoted afterAddress
  have address := SocketAddr.display_inj one other addresses
  have worker := WorkerCount.debug_injective workers
  have secured := TlsConfig.debug_injective escaping tls
  obtain ⟨name, _, _, _⟩ := first
  obtain ⟨_, _, _, _⟩ := second
  cases names
  cases address
  cases worker
  cases secured
  rfl

end

structure RuntimeConfig.BootAddresses (config : RuntimeConfig) : Prop where
  listeners : ∀ listener ∈ config.listeners, listener.address.WellFormed
  admin : ∀ addr ∈ config.admin.addr, addr.WellFormed
  metrics : ∀ addr ∈ config.telemetry.metrics.addr, addr.WellFormed

structure RuntimeConfig.SameBoot (current next : RuntimeConfig) : Prop where
  listeners : current.listeners = next.listeners
  admin : current.admin = next.admin
  shutdown : current.shutdown = next.shutdown
  metrics : current.telemetry.metrics = next.telemetry.metrics
  accessLog : current.telemetry.accessLog = next.telemetry.accessLog

private theorem changedField_eq_nil {β : Type} [DecidableEq β] {field : Text} {current next : β} :
    changedField field current next = [] ↔ current = next := by
  unfold changedField
  split <;> rename_i different
  · exact ⟨fun impossible => (nomatch impossible), fun same => absurd same different⟩
  · exact ⟨fun _ => Decidable.not_not.mp different, fun _ => rfl⟩

private theorem map_inj_of_mem {β γ : Type} {write : β → γ} {first second : List β}
    (inj : ∀ one ∈ first, ∀ other ∈ second, write one = write other → one = other)
    (same : first.map write = second.map write) : first = second := by
  induction first generalizing second with
  | nil => exact (List.map_eq_nil_iff.mp same.symm).symm
  | cons head tail ih =>
    obtain ⟨other, rest, rfl, heads, tails⟩ := List.map_eq_cons_iff.mp same.symm
    obtain rfl := inj head List.mem_cons_self other List.mem_cons_self heads.symm
    rw [ih (fun one member other listed => inj one (List.mem_cons_of_mem head member) other
      (List.mem_cons_of_mem head listed)) tails.symm]

theorem changedFields_eq_nil (escaping : StringEscaping) {current next : RuntimeConfig}
    (one : current.BootAddresses) (other : next.BootAddresses) :
    changedFields escaping current next = [] ↔ current.SameBoot next := by
  unfold changedFields
  simp only [List.append_eq_nil_iff, changedField_eq_nil]
  constructor
  · rintro ⟨⟨⟨⟨listeners, admin⟩, shutdown⟩, metrics⟩, accessLog⟩
    exact {
      listeners := map_inj_of_mem (fun first member second listed =>
        Listener.fingerprint_inj escaping (one.listeners first member)
          (other.listeners second listed)) listeners
      admin := AdminConfig.addr_injective (endpointDebug_inj one.admin other.admin admin)
      shutdown := ShutdownPolicy.debug_injective shutdown
      metrics := Metrics.addr_injective (endpointDebug_inj one.metrics other.metrics metrics)
      accessLog := AccessLogPolicy.debug_injective escaping accessLog }
  · rintro ⟨listeners, admin, shutdown, metrics, accessLog⟩
    unfold listenerFingerprint
    rw [listeners, admin, shutdown, metrics, accessLog]
    exact ⟨⟨⟨⟨rfl, rfl⟩, rfl⟩, rfl⟩, rfl⟩

theorem ensureRuntimeReloadSafe_eq_ok {escaping : StringEscaping} {current next : RuntimeConfig} :
    ensureRuntimeReloadSafe escaping current next = .ok () ↔
      changedFields escaping current next = [] := by
  unfold ensureRuntimeReloadSafe
  split <;> rename_i changed
  · exact ⟨fun _ => changed, fun _ => rfl⟩
  · exact ⟨fun impossible => (nomatch impossible), fun same => absurd same changed⟩

/-- A reload is safe if the sections read at boot are equal, and only then. Distinct
listeners have distinct fingerprints. -/
theorem reload_safe_iff_same_boot (escaping : StringEscaping) {current next : RuntimeConfig}
    (one : current.BootAddresses) (other : next.BootAddresses) :
    (ensureRuntimeReloadSafe escaping current next = .ok () ↔ current.SameBoot next) ∧
    ∀ first second : Listener, first.address.WellFormed → second.address.WellFormed →
      first.fingerprint escaping = second.fingerprint escaping → first = second := by
  constructor
  · rw [ensureRuntimeReloadSafe_eq_ok, changedFields_eq_nil escaping one other]
  · intro first second firstFits secondFits
    exact Listener.fingerprint_inj escaping firstFits secondFits

def bootConfig (name certPath : String) : RuntimeConfig :=
  { listeners :=
      [{ name := literal name
         address := { ip := .v4 127 0 0 1, port := 8443 }
         workers := .auto
         tls := .enabled (literal certPath) (literal "key.pem") .disabled }]
    telemetry :=
      { level := .info
        pingora := .info
        serviceName := literal "edge"
        metrics := .disabled
        accessLog := .stdout
        tracing := .disabled }
    upstreams := []
    routes := []
    shutdown := .disabled
    admin := .disabled
    features := .default
    requiredCapabilities := [] }

private theorem bootConfig_addresses (name certPath : String) :
    (bootConfig name certPath).BootAddresses where
  listeners := by
    intro listener member
    cases List.mem_singleton.mp member
    exact ⟨show 8443 < 2 ^ 16 by decide, show 0 < 2 ^ 32 by decide, fun _ _ _ _ _ => rfl⟩
  admin := fun _ impossible => nomatch impossible
  metrics := fun _ impossible => nomatch impossible

/-- Without the backslash in front of the quote the two fingerprints would be one. -/
theorem disguised_listener_rejected :
    ensureRuntimeReloadSafe stringQuoting.guarding
      (bootConfig "a" "x|127.0.0.1:8443|Auto|Enabled \x7b cert_path: Path(\"c")
      (bootConfig "a|127.0.0.1:8443|Auto|Enabled \x7b cert_path: Path(\"x" "c") ≠ .ok () := by
  intro safe
  have same := ((reload_safe_iff_same_boot stringQuoting.guarding (bootConfig_addresses _ _)
    (bootConfig_addresses _ _)).1.mp safe).listeners
  exact absurd same (by decide +kernel)

end Pavis.Config
