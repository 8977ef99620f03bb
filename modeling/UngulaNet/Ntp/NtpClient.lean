import UngulaNet.Foundation.CString
import UngulaNet.Foundation.Calendar
import UngulaNet.Foundation.Decimal

/-!
# NTP client

`src/ntp/ntp_client.cpp` on the device. The SNTP service of the platform is seen through
the calls it gets, and the system clock is an argument: seconds since 1970.
-/

namespace UngulaNet.Ntp
set_option autoImplicit false

structure NtpConfig where
  server : CString
  fallbackServer : Option CString
  utcOffsetSeconds : Int32 := 0
  syncIntervalSec : UInt32 := 3600
deriving DecidableEq

inductive SntpCall where
  | setoperatingmode
  | setservername (idx : Fin 2) (server : CString)
  | set_sync_interval (ms : UInt32)
  | init
  | stop
deriving DecidableEq

/-- The static variables, and the calls the SNTP service got. -/
structure NtpClient where
  s_utcOffset : Int32 := 0
  s_initialised : Bool := false
  calls : List SntpCall := []
deriving DecidableEq

namespace NtpClient

/-- The calls that start the service. -/
def startCalls (config : NtpConfig) : List SntpCall :=
  [.setoperatingmode, .setservername 0 config.server] ++
    (config.fallbackServer.map (SntpCall.setservername 1)).toList ++
    [.set_sync_interval (config.syncIntervalSec * 1000), .init]

def ntp_init (client : NtpClient) (config : NtpConfig) : NtpClient :=
  if client.s_initialised then client
  else
    { s_utcOffset := config.utcOffsetSeconds, s_initialised := true,
      calls := client.calls ++ startCalls config }

def ntp_stop (client : NtpClient) : NtpClient :=
  if client.s_initialised then
    { client with s_initialised := false, calls := client.calls ++ [.stop] }
  else client

/-- 2020-01-01 00:00:00 UTC. -/
def clockSet : Int := 1577836800

def ntp_is_synced (client : NtpClient) (now : Int) : Bool :=
  client.s_initialised && decide (clockSet < now)

def ntp_epoch (now : Int) : Int := if now < clockSet then 0 else now

/-- A clock that was set some other way does not count before `ntp_init`, and at the first
second of 2020 only one of the two functions takes it to be set. -/
theorem ntp_is_synced_iff (client : NtpClient) (now : Int) : client.ntp_is_synced now = true ↔
    client.s_initialised = true ∧ ntp_epoch now ≠ 0 ∧ now ≠ clockSet := by
  have hepoch : ntp_epoch now ≠ 0 ↔ clockSet ≤ now := by
    unfold ntp_epoch clockSet
    split <;> omega
  rw [ntp_is_synced, Bool.and_eq_true, decide_eq_true_eq, hepoch]
  exact and_congr_right fun _ => by omega

def ntp_local_epoch (client : NtpClient) (now : Int) : Int :=
  if ntp_epoch now = 0 then 0 else ntp_epoch now + client.s_utcOffset.toInt

/-- `strftime` with the format `"%Y-%m-%d %H:%M:%S"`, its fields and the characters
between them. -/
def timeFields (tm : Calendar.Tm) : List (List UInt8) :=
  [Decimal.printed 1 (tm.tm_year + 1900), [45], Decimal.printed 2 (tm.tm_mon + 1), [45],
    Decimal.printed 2 tm.tm_mday, [32], Decimal.printed 2 tm.tm_hour, [58],
    Decimal.printed 2 tm.tm_min, [58], Decimal.printed 2 tm.tm_sec]

/-- A text and its NUL at the start of the buffer, or 0 when they do not fit. -/
def strftime {n : Nat} (buf : CArray UInt8 n) (tm : Calendar.Tm) : Nat × CArray UInt8 n :=
  let text := (timeFields tm).flatten
  match buf.memcpy (text ++ [0]) with
  | some buf => (text.length, buf)
  | none => (0, buf)

def ntp_format_local (client : NtpClient) (now : Int) {n : Nat} (buf : CArray UInt8 n) :
    Nat × CArray UInt8 n :=
  if n < 20 then (0, buf)
  else
    let time := client.ntp_local_epoch now
    if time = 0 then (0, buf) else strftime buf (Calendar.gmtime_r time)

end NtpClient

end UngulaNet.Ntp
