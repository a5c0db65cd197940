import TegraPinctrl.Basic
import TegraPinctrl.RegField
import TegraPinctrl.Tegra234
import TegraPinctrl.Pinconf
import TegraPinctrl.Pinmux
import TegraPinctrl.Probe
import TegraPinctrl.Gpio
import TegraPinctrl.Suspend
import TegraPinctrl.Driver
import TegraPinctrl.DtMap
import TegraPinctrl.Isolation
import TegraPinctrl.View
import TegraPinctrl.Store
import TegraPinctrl.Release
import TegraPinctrl.Interleaving
import TegraPinctrl.Firmwares
