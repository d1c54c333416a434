/-! # Pacing

Loops run at a fixed rate. `Pacer.interval` is the time between two ticks in whole nanoseconds: the
fraction is dropped, a rate too low for the clock gives the longest interval, and a rate that gives
no interval at all gives none.
-/

namespace DriverMonitor.Pacer

/-- Nanoseconds between two ticks at a rate in hertz. -/
def interval (rateHz : Float) : UInt64 := (1e9 / rateHz).toUInt64

end DriverMonitor.Pacer
