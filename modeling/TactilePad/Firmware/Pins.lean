/-!
# Pin assignment

The pins that the board connects its two devices to, by their numbers, and the clock rates of the
two buses in hertz.
-/

namespace TactilePad.Firmware

namespace Pins

/-! ### The sensor, on SPI -/

def sensorClock : Nat := 12
def sensorDataOut : Nat := 11
def sensorDataIn : Nat := 13
def sensorSelect : Nat := 10
/-- The motion line: it rises when the sensor has a displacement to tell. -/
def motion : Nat := 9
/-- The line that gates the sensor's power; high is powered. -/
def shutdown : Nat := 8

/-! ### The haptic chip, on I2C -/

def hapticData : Nat := 14
def hapticClock : Nat := 15
/-- The enable line of the haptic chip; high is active. -/
def enable : Nat := 4

end Pins

def sensorHertz : Nat := 1000000

/-- The SPI mode of the sensor: the clock idles high and data is sampled on its second edge. -/
def sensorSpiMode : Nat := 3

def hapticHertz : Nat := 400000

end TactilePad.Firmware
