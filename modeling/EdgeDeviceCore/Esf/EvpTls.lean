/-!
# Whether TLS is enabled

The agent uses TLS unless the system manager says otherwise. A setting that cannot be read counts as
enabled.
-/

namespace EdgeDeviceCore.Esf

/-- `EsfSystemManagerEvpTlsValue`. -/
inductive EvpTlsValue where
  | disable
  | enable
deriving DecidableEq, Repr

/-- The argument is what `EsfSystemManagerGetEvpTls` gives, if it succeeds. -/
def evpAgentEsfIsTlsEnabled : Option EvpTlsValue → Bool
  | none => true
  | some .disable => false
  | some .enable => true

end EdgeDeviceCore.Esf
