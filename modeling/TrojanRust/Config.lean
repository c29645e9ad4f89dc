import TrojanRust.Error
import TrojanRust.Net.AddrParser

/-!
# Configuration

The fields of the configuration that the server uses, their defaults, and the checks that a
configuration passes before it is used.
-/

namespace TrojanRust

/-- `Config`. Numbers of seconds and of connections keep their machine widths. -/
structure Config where
  bindAddr : String
  tlsCert : String
  tlsKey : String
  /-- Password hashes in hex. -/
  passwords : List String
  udpBindAddr : String
  /-- Seconds a TCP target may take to accept. -/
  tcpTimeout : UInt64
  /-- Seconds a UDP association may be idle. -/
  udpTimeout : UInt64
  maxConnections : UInt64
  /-- Where unauthenticated connections are forwarded to. -/
  fallbackAddr : String
  deriving DecidableEq, Repr

/-- `validate_host_port`. -/
def validateHostPort (field value : String) : Result Unit :=
  if (SocketAddr.fromStr value).isSome then return ()
  else
    match rsplitOnce 0x3a (asBytes value) with
    | none =>
      err (.config ("Invalid " ++ field ++ ": expected host:port or socket address, got " ++ value))
    | some (host, port) =>
      if host.isEmpty then
        err (.config ("Invalid " ++ field ++ ": host is empty (" ++ value ++ ")"))
      else if (u16FromStr port).isNone then
        err (.config ("Invalid " ++ field ++ ": port is invalid (" ++ value ++ ")"))
      else return ()

namespace Config

/-- The configuration of a file that gives only the fields without a default. -/
def withDefaults (tlsCert tlsKey : String) (passwords : List String) : Config where
  bindAddr := "0.0.0.0:443"
  tlsCert
  tlsKey
  passwords
  udpBindAddr := "0.0.0.0:0"
  tcpTimeout := 300
  udpTimeout := 60
  maxConnections := 1024
  fallbackAddr := "127.0.0.1:80"

/-- A password that `validate` takes for a SHA-224 hash in hex. -/
def isPasswordHash (password : String) : Bool :=
  (asBytes password).length == 56 && (asBytes password).all isAsciiHexdigit

/-- `Config::validate`, where files exist as the environment says. -/
def validate (fileExists : String → Bool) (config : Config) : Result Unit :=
  if config.passwords.isEmpty then
    err (.config "At least one password must be configured")
  else if (SocketAddr.fromStr config.bindAddr).isNone then
    err (.config ("Invalid bind_addr socket address: " ++ config.bindAddr))
  else if ¬ fileExists config.tlsCert then
    err (.config ("TLS certificate file not found: " ++ config.tlsCert))
  else if ¬ fileExists config.tlsKey then
    err (.config ("TLS key file not found: " ++ config.tlsKey))
  else if ¬ config.passwords.all isPasswordHash then
    err (.config "All passwords must be SHA-224 hex strings (56 hex chars)")
  else if (SocketAddr.fromStr config.udpBindAddr).isNone then
    err (.config ("Invalid udp_bind_addr socket address: " ++ config.udpBindAddr))
  else validateHostPort "fallback_addr" config.fallbackAddr

/-- A host name with a port is a fallback address, and a port without a host is none. -/
example : validateHostPort "fallback_addr" "example.com:443" = .ok () ∧
    validateHostPort "fallback_addr" ":443" =
      err (.config "Invalid fallback_addr: host is empty (:443)") := by
  decide +kernel

end Config

end TrojanRust
