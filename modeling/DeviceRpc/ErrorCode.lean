/-!
# Error codes

The status a reply carries is a sixteen-bit number: zero for success, the
numbers 1 to 40 for the causes named here, and any other number for a cause this
library has no name for. The numbers travel on the wire, so they are part of the
format and never change.
-/

namespace DeviceRpc

/-- Why a request failed. -/
inductive ErrorCode where
  | access | again | badDescriptor | badMessage | busy | connectionRefused | connectionReset
  | closed | alreadyExists | hostUnreachable | io | invalidArgument | interrupted | networkDown
  | networkUnreachable | noEntry | outOfMemory | noSpace | notDirectory | notSupported
  | permission | brokenPipe | protocolWrong | noSuchProcess | timedOut | already | badCommand
  | commandNotSupported | commandTooLong | canceled | deviceNotLoaded | deviceMalfunction
  | empty | failed | notFound | morePackets | noOption | powerOff | uninitialized | error
  /-- A number without a name of its own. -/
  | unknown (number : UInt16)
  deriving DecidableEq, Repr, Inhabited

namespace ErrorCode

/-- The number that travels on the wire. -/
def number : ErrorCode → UInt16
  | access => 1 | again => 2 | badDescriptor => 3 | badMessage => 4 | busy => 5
  | connectionRefused => 6 | connectionReset => 7 | closed => 8 | alreadyExists => 9
  | hostUnreachable => 10 | io => 11 | invalidArgument => 12 | interrupted => 13
  | networkDown => 14 | networkUnreachable => 15 | noEntry => 16 | outOfMemory => 17
  | noSpace => 18 | notDirectory => 19 | notSupported => 20 | permission => 21
  | brokenPipe => 22 | protocolWrong => 23 | noSuchProcess => 24 | timedOut => 25
  | already => 26 | badCommand => 27 | commandNotSupported => 28 | commandTooLong => 29
  | canceled => 30 | deviceNotLoaded => 31 | deviceMalfunction => 32 | empty => 33
  | failed => 34 | notFound => 35 | morePackets => 36 | noOption => 37 | powerOff => 38
  | uninitialized => 39 | error => 40
  | unknown number => number

/-- The short name that metrics and messages show. -/
def name : ErrorCode → String
  | access => "EACCES" | again => "EAGAIN" | badDescriptor => "EBADF" | badMessage => "EBADMSG"
  | busy => "EBUSY" | connectionRefused => "ECONNREFUSED" | connectionReset => "ECONNRESET"
  | closed => "ECLOSED" | alreadyExists => "EEXIST" | hostUnreachable => "EHOSTUNREACH"
  | io => "EIO" | invalidArgument => "EINVAL" | interrupted => "EINTR"
  | networkDown => "ENETDOWN" | networkUnreachable => "ENETUNREACH" | noEntry => "ENOENT"
  | outOfMemory => "ENOMEM" | noSpace => "ENOSPC" | notDirectory => "ENOTDIR"
  | notSupported => "ENOTSUP" | permission => "EPERM" | brokenPipe => "EPIPE"
  | protocolWrong => "EPROTOWRONG" | noSuchProcess => "ESRCH" | timedOut => "ETIMEDOUT"
  | already => "EALREADY" | badCommand => "EBADCMD" | commandNotSupported => "ECMDNOSUPPORT"
  | commandTooLong => "ECMDTOOLONG" | canceled => "ECANCELED"
  | deviceNotLoaded => "EDEVNOTLOADED" | deviceMalfunction => "EDEVMAL" | empty => "EEMPTY"
  | failed => "EFAILED" | notFound => "ENOTFOUND" | morePackets => "EMOREPACK"
  | noOption => "ENOPTION" | powerOff => "EPWROFF" | uninitialized => "EUNINIT"
  | error => "ERROR"
  | unknown _ => "EUNKNOWN"

/-- The short name, with the number where the name does not tell it. -/
def message : ErrorCode → String
  | unknown number => "EUNKNOWN(" ++ toString number.toNat ++ ")"
  | code => code.name

/-- The named codes, in the order of their numbers. -/
def named : List ErrorCode :=
  [access, again, badDescriptor, badMessage, busy, connectionRefused, connectionReset, closed,
    alreadyExists, hostUnreachable, io, invalidArgument, interrupted, networkDown,
    networkUnreachable, noEntry, outOfMemory, noSpace, notDirectory, notSupported, permission,
    brokenPipe, protocolWrong, noSuchProcess, timedOut, already, badCommand,
    commandNotSupported, commandTooLong, canceled, deviceNotLoaded, deviceMalfunction, empty,
    failed, notFound, morePackets, noOption, powerOff, uninitialized, error]

/-- The named code of a number that is not zero, `unknown` where there is none. -/
def ofNonzero (number : UInt16) : ErrorCode :=
  (named.find? (·.number = number)).getD (.unknown number)

/-- The code a status number stands for: `none` for zero, which is success. -/
def ofNumber? (number : UInt16) : Option ErrorCode :=
  if number = 0 then none else some (ofNonzero number)

theorem number_ofNonzero (number : UInt16) : (ofNonzero number).number = number := by
  unfold ofNonzero
  cases h : named.find? (·.number = number) with
  | none => rfl
  | some code => simpa using List.find?_some h

theorem number_of_ofNumber? {number : UInt16} {code : ErrorCode}
    (h : ofNumber? number = some code) : code.number = number := by
  unfold ofNumber? at h
  split at h
  · simp at h
  · obtain rfl := Option.some.inj h
    exact number_ofNonzero number

end ErrorCode

end DeviceRpc
