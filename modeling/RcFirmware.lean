import RcFirmware.Proof.As7341Decode
import RcFirmware.Proof.As7341Dispatch
import RcFirmware.Proof.As7341Readers
import RcFirmware.Proof.CanNotification
import RcFirmware.Proof.CanPolling
import RcFirmware.Proof.CanReception
import RcFirmware.Proof.CapSensorErrors
import RcFirmware.Proof.CapSensorMoisture
import RcFirmware.Proof.CapSensorRelease
import RcFirmware.Proof.CapSensorVoltage
import RcFirmware.Proof.FirmwareConsole
import RcFirmware.Proof.FirmwareDistances
import RcFirmware.Proof.FirmwareReadings
import RcFirmware.Proof.HcsrAttribution
import RcFirmware.Proof.HcsrDistance
import RcFirmware.Proof.HcsrHistory
import RcFirmware.Proof.HcsrMeasurement
import RcFirmware.Proof.HcsrTimeShift
import RcFirmware.Proof.LedBank
import RcFirmware.Proof.LedBlink
import RcFirmware.Proof.LedIsolation
import RcFirmware.Proof.LedRange
import RcFirmware.Proof.MainThreadRuns
import RcFirmware.Proof.MotorCommand
import RcFirmware.Proof.MotorDrive
import RcFirmware.Proof.MotorSweep
import RcFirmware.Proof.PidFeedback
import RcFirmware.Proof.PidRuns
import RcFirmware.Proof.ReadingTorn
import RcFirmware.Proof.ReadyDevices
import RcFirmware.Proof.SensorRouting
import RcFirmware.Proof.SensorSlotFailure
import RcFirmware.Proof.SlowpwmBlink
import RcFirmware.Proof.SlowpwmBrightness
import RcFirmware.Proof.SlowpwmLamps
import RcFirmware.Proof.WorkQueueSlot
