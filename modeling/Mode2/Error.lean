/-!
# Errors

Every failure of the stack names its cause. The wording shown to an operator is
computed from the cause alone. Rejections that are part of the protocol, such as
a frame for another dialog or a query that does not match, are not errors; they
are scores.
-/

namespace Mode2

/-- Why a frame queue refuses an operation. -/
inductive QueueError
  /-- A write would pass the write limit. -/
  | full
  /-- A read would pass the written bytes. -/
  | underrun
  /-- A size exceeds what the queue can hold. -/
  | capacity
deriving DecidableEq, Repr

def QueueError.message : QueueError → String
  | .full => "queue full"
  | .underrun => "read past end of data"
  | .capacity => "limit exceeds capacity"

/-- Why a frame cannot be staged. -/
inductive FrameError
  /-- Both kinds of security were requested for one frame. -/
  | securityConflict
  /-- A secured frame was requested but there is no cipher. -/
  | noSecurity
  /-- The cipher refused the frame. -/
  | securityFailed
  /-- The staged frame does not fit. -/
  | overflow (cause : QueueError)
deriving DecidableEq, Repr

def FrameError.message : FrameError → String
  | .securityConflict => "DLLS and NLS are mutually exclusive"
  | .noSecurity => "secured frame without security port"
  | .securityFailed => "security transform failed"
  | .overflow cause => "overflow (" ++ cause.message ++ ")"

/-- Why the collection of dialogs refuses an operation. -/
inductive SessionError
  /-- Every slot is taken; the newest request is refused. -/
  | full
  /-- No dialog is scheduled. -/
  | empty
deriving DecidableEq, Repr

def SessionError.message : SessionError → String
  | .full => "session stack full"
  | .empty => "no session scheduled"

/-- Why the radio refuses an operation. -/
inductive RadioError
  | busy
  | badChannel
  | hardware
deriving DecidableEq, Repr

def RadioError.message : RadioError → String
  | .busy => "radio busy"
  | .badChannel => "unsupported channel"
  | .hardware => "hardware failure"

/-- Why the file store refuses an access. -/
inductive FileError
  /-- No file has that number. -/
  | notFound
  /-- The user lacks the requested right. -/
  | accessDenied
  /-- The offset lies past the end of the file. -/
  | outOfRange
  /-- Too many files are open. -/
  | noHandle
deriving DecidableEq, Repr

def FileError.message : FileError → String
  | .notFound => "file not found"
  | .accessDenied => "access denied"
  | .outOfRange => "offset out of range"
  | .noHandle => "no free file handle"

/-- The range checks a configuration has to pass. -/
inductive ConfigRule
  | uidNonZero
  | contentionBits
  | beaconFits
  | beaconInterval
  | scanTimeout
deriving DecidableEq, Repr

def ConfigRule.message : ConfigRule → String
  | .uidNonZero => "device.uid must be non-zero"
  | .contentionBits => "csma.params has unknown bits"
  | .beaconFits => "beacon.max_bytes exceeds frame payload"
  | .beaconInterval => "beacon.interval must be > 0"
  | .scanTimeout => "scan.timeout must be > 0"

/-- Why a configuration is refused. -/
inductive ConfigError
  /-- The stored form cannot be read. -/
  | corrupted
  /-- A range check failed. -/
  | invalid (rule : ConfigRule)
deriving DecidableEq, Repr

def ConfigError.message : ConfigError → String
  | .corrupted => "config corrupted"
  | .invalid rule => "validation failed: " ++ rule.message

/-- Any failure of the stack. -/
inductive Error
  | queue (cause : QueueError)
  | frame (cause : FrameError)
  | session (cause : SessionError)
  | radio (cause : RadioError)
  | file (cause : FileError)
  | config (cause : ConfigError)
deriving DecidableEq, Repr

def Error.message : Error → String
  | .queue cause => "queue: " ++ cause.message
  | .frame cause => "frame: " ++ cause.message
  | .session cause => "session: " ++ cause.message
  | .radio cause => "radio: " ++ cause.message
  | .file cause => "file: " ++ cause.message
  | .config cause => "config: " ++ cause.message

end Mode2
