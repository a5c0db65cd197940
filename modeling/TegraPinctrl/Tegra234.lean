import TegraPinctrl.Basic

/-! # The tegra234 tables

`tegra234_groups`, `tegra234_functions` and `tegra234_pinctrl` of `pinctrl-tegra234.c`,
row by row. The pin-group rows are written with `pingroup`, which performs what the
`PINGROUP`, `PIN_PINGROUP_ENTRY_Y` and `DRV_PINGROUP_ENTRY_Y/N` macros do: every field the
macros do not name is zero, and where two initialisers name the same field (`drv_reg`) the
later one wins. The pin of a group is its `TEGRA_PIN_*` number from `T234_PIN_TABLE`: the
GPIO pins count from 0, the three pads `EQOS_COMP`, `QSPI_COMP`, `SDMMC1_COMP` follow at
`NUM_GPIOS + 0, 1, 2` = 217, 218, 219. -/

namespace TegraPinctrl

/-- `enum tegra_mux_dt`, in the order of `T234_FUNCTION_TABLE`. -/
inductive TegraMuxDt
  | gp | uartc | i2c8 | spi2 | i2c2 | can1 | can0 | rsvd0 | eth0 | eth2 | eth1 | dp | eth3
  | i2c4 | i2c7 | i2c9 | eqos | pe2 | pe1 | pe0 | pe3 | pe4 | pe5 | pe6 | pe10 | pe7 | pe8
  | pe9 | qspi0 | qspi1 | qspi | sdmmc1 | sce | soc | gpio | hdmi | ufs0 | spi3 | spi1 | uartb
  | uarte | usb | extperiph2 | extperiph1 | i2c3 | vi0 | i2c5 | uarta | uartd | i2c1 | i2s4
  | i2s6 | aud | spi5 | touch | uartj | rsvd1 | wdt | tsc | dmic3 | led | vi0_alt | i2s5 | nv
  | extperiph3 | extperiph4 | spi4 | ccla | i2s2 | i2s1 | i2s8 | i2s3 | rsvd2 | dmic5 | dca
  | displayb | displaya | vi1 | dcb | dmic1 | dmic4 | i2s7 | dmic2 | dspk0 | rsvd3 | tsc_alt
  | istctrl | vi1_alt | dspk1 | igpu

/-- `tegra234_functions`: the `name` of each function, in the same order. -/
def tegra234Functions : List String :=
  ["gp", "uartc", "i2c8", "spi2", "i2c2", "can1", "can0", "rsvd0", "eth0", "eth2", "eth1",
    "dp", "eth3", "i2c4", "i2c7", "i2c9", "eqos", "pe2", "pe1", "pe0", "pe3", "pe4", "pe5",
    "pe6", "pe10", "pe7", "pe8", "pe9", "qspi0", "qspi1", "qspi", "sdmmc1", "sce", "soc",
    "gpio", "hdmi", "ufs0", "spi3", "spi1", "uartb", "uarte", "usb", "extperiph2",
    "extperiph1", "i2c3", "vi0", "i2c5", "uarta", "uartd", "i2c1", "i2s4", "i2s6", "aud",
    "spi5", "touch", "uartj", "rsvd1", "wdt", "tsc", "dmic3", "led", "vi0_alt", "i2s5", "nv",
    "extperiph3", "extperiph4", "spi4", "ccla", "i2s2", "i2s1", "i2s8", "i2s3", "rsvd2",
    "dmic5", "dca", "displayb", "displaya", "vi1", "dcb", "dmic1", "dmic4", "i2s7", "dmic2",
    "dspk0", "rsvd3", "tsc_alt", "istctrl", "vi1_alt", "dspk1", "igpu"]

/-- The fields a `drive_<group>` macro initialises. -/
structure DrvPingroupEntry where
  drvReg : Int
  drvBank : Int
  drvdnBit : Int
  drvdnWidth : Int
  drvupBit : Int
  drvupWidth : Int
  slwrBit : Int
  slwrWidth : Int
  slwfBit : Int
  slwfWidth : Int

/-- `DRV_PINGROUP_ENTRY_Y(r, drvdn_b, drvdn_w, drvup_b, drvup_w, slwr_b, slwr_w, slwf_b,
slwf_w, bank)`. -/
def drvPingroupEntryY (r drvdnB drvdnW drvupB drvupW slwrB slwrW slwfB slwfW bank : Int) :
    DrvPingroupEntry :=
  ⟨r, bank, drvdnB, drvdnW, drvupB, drvupW, slwrB, slwrW, slwfB, slwfW⟩

/-- `DRV_PINGROUP_ENTRY_N`: no drive register. The widths it does not name are zero. -/
def drvPingroupEntryN : DrvPingroupEntry := ⟨-1, -1, -1, 0, -1, 0, -1, 0, -1, 0⟩

/-- `PINGROUP(pg_name, f0, f1, f2, f3, r, bank, pupd, e_io_hv, e_lpbk, e_input, e_lpdr,
e_pbias_buf, gpio_sfio_sel, schmitt_b)` followed by `drive_<pg_name>`. The columns `e_io_hv`,
`e_lpdr` and `e_pbias_buf` only initialise fields no function of the driver reads, and are
left out. `PIN_PINGROUP_ENTRY_Y` never names `odrain_bit`, `ioreset_bit`, `rcv_sel_bit`,
`pad_bank`, `pad_reg`, `pad_bit` or `parked_bitmask`, so they are zero. -/
def pingroup (name : String) (pin : Nat) (f0 f1 f2 f3 : TegraMuxDt) (r bank : Int)
    (pupd : Bool) (eLpbk eInput gpioSfioSel schmittB : Int) (drv : DrvPingroupEntry) :
    TegraPingroup where
  name := name
  pins := [pin]
  funcs := [f0.toCtorIdx, f1.toCtorIdx, f2.toCtorIdx, f3.toCtorIdx]
  funcs_length := rfl
  muxReg := r
  muxBank := bank
  muxBit := 0
  pupdReg := if pupd then r else -1
  pupdBank := bank
  pupdBit := 2
  triReg := r
  triBank := bank
  triBit := 4
  einputBit := eInput
  odrainBit := 0
  lockBit := -1
  ioresetBit := 0
  rcvSelBit := 0
  lpbkReg := r
  lpbkBank := bank
  lpbkBit := eLpbk
  hsmBit := -1
  schmittBit := schmittB
  lpmdBit := -1
  drvReg := drv.drvReg
  drvBank := drv.drvBank
  drvdnBit := drv.drvdnBit
  drvdnWidth := drv.drvdnWidth
  drvupBit := drv.drvupBit
  drvupWidth := drv.drvupWidth
  slwrBit := drv.slwrBit
  slwrWidth := drv.slwrWidth
  slwfBit := drv.slwfBit
  slwfWidth := drv.slwfWidth
  drvtypeBit := 13
  sfselBit := gpioSfioSel
  padReg := 0
  padBank := 0
  padBit := 0
  parkedBitmask := 0

/-- `tegra234_groups`. Each row: name, pin, the four functions, `r`, `bank`, `pupd`,
`e_lpbk`, `e_input`, `gpio_sfio_sel`, `schmitt_b`, then the drive entry. -/
def tegra234Groups : List TegraPingroup := [
  pingroup "touch_clk_pcc4" 201 .gp .touch .rsvd2 .rsvd3 0x2000 1 true 7 6 10 12
    (drvPingroupEntryY 0x2004 12 5 20 5 (-1) (-1) (-1) (-1) 1),
  pingroup "uart3_rx_pcc6" 203 .uartc .uartj .rsvd2 .rsvd3 0x2008 1 true 7 6 10 12
    (drvPingroupEntryY 0x200c 12 5 20 5 (-1) (-1) (-1) (-1) 1),
  pingroup "uart3_tx_pcc5" 202 .uartc .uartj .rsvd2 .rsvd3 0x2010 1 true 7 6 10 12
    (drvPingroupEntryY 0x2014 12 5 20 5 (-1) (-1) (-1) (-1) 1),
  pingroup "gen8_i2c_sda_pdd2" 207 .i2c8 .rsvd1 .rsvd2 .rsvd3 0x2018 1 true 7 6 10 12
    (drvPingroupEntryY 0x201c 12 5 20 5 (-1) (-1) (-1) (-1) 1),
  pingroup "gen8_i2c_scl_pdd1" 206 .i2c8 .rsvd1 .rsvd2 .rsvd3 0x2020 1 true 7 6 10 12
    (drvPingroupEntryY 0x2024 12 5 20 5 (-1) (-1) (-1) (-1) 1),
  pingroup "spi2_mosi_pcc2" 199 .spi2 .rsvd1 .rsvd2 .rsvd3 0x2028 1 true 7 6 10 12
    (drvPingroupEntryY 0x202c 12 5 20 5 (-1) (-1) (-1) (-1) 1),
  pingroup "gen2_i2c_scl_pcc7" 204 .i2c2 .rsvd1 .rsvd2 .rsvd3 0x2030 1 true 7 6 10 12
    (drvPingroupEntryY 0x2034 12 5 20 5 (-1) (-1) (-1) (-1) 1),
  pingroup "spi2_cs0_pcc3" 200 .spi2 .rsvd1 .rsvd2 .rsvd3 0x2038 1 true 7 6 10 12
    (drvPingroupEntryY 0x203c 12 5 20 5 (-1) (-1) (-1) (-1) 1),
  pingroup "gen2_i2c_sda_pdd0" 205 .i2c2 .rsvd1 .rsvd2 .rsvd3 0x2040 1 true 7 6 10 12
    (drvPingroupEntryY 0x2044 12 5 20 5 (-1) (-1) (-1) (-1) 1),
  pingroup "spi2_sck_pcc0" 197 .spi2 .rsvd1 .rsvd2 .rsvd3 0x2048 1 true 7 6 10 12
    (drvPingroupEntryY 0x204c 12 5 20 5 (-1) (-1) (-1) (-1) 1),
  pingroup "spi2_miso_pcc1" 198 .spi2 .rsvd1 .rsvd2 .rsvd3 0x2050 1 true 7 6 10 12
    (drvPingroupEntryY 0x2054 12 5 20 5 (-1) (-1) (-1) (-1) 1),
  pingroup "can1_dout_paa2" 161 .can1 .rsvd1 .rsvd2 .rsvd3 0x3000 1 true 5 6 10 12
    (drvPingroupEntryY 0x3004 28 2 30 2 (-1) (-1) (-1) (-1) 1),
  pingroup "can1_din_paa3" 162 .can1 .rsvd1 .rsvd2 .rsvd3 0x3008 1 true 5 6 10 12
    (drvPingroupEntryY 0x300c 28 2 30 2 (-1) (-1) (-1) (-1) 1),
  pingroup "can0_dout_paa0" 159 .can0 .rsvd1 .rsvd2 .rsvd3 0x3010 1 true 5 6 10 12
    (drvPingroupEntryY 0x3014 28 2 30 2 (-1) (-1) (-1) (-1) 1),
  pingroup "can0_din_paa1" 160 .can0 .rsvd1 .rsvd2 .rsvd3 0x3018 1 true 5 6 10 12
    (drvPingroupEntryY 0x301c 28 2 30 2 (-1) (-1) (-1) (-1) 1),
  pingroup "can0_stb_paa4" 163 .rsvd0 .wdt .tsc .tsc_alt 0x3020 1 true 5 6 10 12
    (drvPingroupEntryY 0x3024 28 2 30 2 (-1) (-1) (-1) (-1) 1),
  pingroup "can0_en_paa5" 164 .rsvd0 .rsvd1 .rsvd2 .rsvd3 0x3028 1 true 5 6 10 12
    (drvPingroupEntryY 0x302c 28 2 30 2 (-1) (-1) (-1) (-1) 1),
  pingroup "soc_gpio49_paa6" 165 .rsvd0 .rsvd1 .rsvd2 .rsvd3 0x3030 1 true 5 6 10 12
    (drvPingroupEntryY 0x3034 28 2 30 2 (-1) (-1) (-1) (-1) 1),
  pingroup "can0_err_paa7" 166 .rsvd0 .tsc .rsvd2 .tsc_alt 0x3038 1 true 5 6 10 12
    (drvPingroupEntryY 0x303c 28 2 30 2 (-1) (-1) (-1) (-1) 1),
  pingroup "can1_stb_pbb0" 193 .rsvd0 .dmic3 .dmic5 .rsvd3 0x3040 1 true 5 6 10 12
    (drvPingroupEntryY 0x3044 28 2 30 2 (-1) (-1) (-1) (-1) 1),
  pingroup "can1_en_pbb1" 194 .rsvd0 .dmic3 .dmic5 .rsvd3 0x3048 1 true 5 6 10 12
    (drvPingroupEntryY 0x304c 28 2 30 2 (-1) (-1) (-1) (-1) 1),
  pingroup "soc_gpio50_pbb2" 195 .rsvd0 .tsc .rsvd2 .tsc_alt 0x3050 1 true 5 6 10 12
    (drvPingroupEntryY 0x3054 28 2 30 2 (-1) (-1) (-1) (-1) 1),
  pingroup "can1_err_pbb3" 196 .rsvd0 .tsc .rsvd2 .tsc_alt 0x3058 1 true 5 6 10 12
    (drvPingroupEntryY 0x305c 28 2 30 2 (-1) (-1) (-1) (-1) 1),
  pingroup "soc_gpio08_pb0" 8 .rsvd0 .rsvd1 .rsvd2 .rsvd3 0x5008 0 true 7 6 10 12
    (drvPingroupEntryY 0x500c 12 5 20 5 (-1) (-1) (-1) (-1) 0),
  pingroup "soc_gpio36_pm5" 81 .eth0 .rsvd1 .dca .rsvd3 0x10000 0 true 7 6 10 12
    (drvPingroupEntryY 0x10004 12 5 20 5 (-1) (-1) (-1) (-1) 0),
  pingroup "soc_gpio53_pm6" 82 .eth0 .rsvd1 .dca .rsvd3 0x10008 0 true 7 6 10 12
    (drvPingroupEntryY 0x1000c 12 5 20 5 (-1) (-1) (-1) (-1) 0),
  pingroup "soc_gpio55_pm4" 80 .eth2 .rsvd1 .rsvd2 .rsvd3 0x10010 0 true 7 6 10 12
    (drvPingroupEntryY 0x10014 12 5 20 5 (-1) (-1) (-1) (-1) 0),
  pingroup "soc_gpio38_pm7" 83 .eth1 .rsvd1 .rsvd2 .rsvd3 0x10018 0 true 7 6 10 12
    (drvPingroupEntryY 0x1001c 12 5 20 5 (-1) (-1) (-1) (-1) 0),
  pingroup "soc_gpio39_pn1" 85 .gp .rsvd1 .rsvd2 .rsvd3 0x10020 0 true 7 6 10 12
    (drvPingroupEntryY 0x10024 12 5 20 5 (-1) (-1) (-1) (-1) 0),
  pingroup "soc_gpio40_pn2" 86 .eth1 .rsvd1 .rsvd2 .rsvd3 0x10028 0 true 7 6 10 12
    (drvPingroupEntryY 0x1002c 12 5 20 5 (-1) (-1) (-1) (-1) 0),
  pingroup "dp_aux_ch0_hpd_pm0" 76 .dp .rsvd1 .rsvd2 .rsvd3 0x10030 0 true 7 6 10 12
    (drvPingroupEntryY 0x10034 12 5 20 5 (-1) (-1) (-1) (-1) 0),
  pingroup "dp_aux_ch1_hpd_pm1" 77 .eth3 .rsvd1 .rsvd2 .rsvd3 0x10038 0 true 7 6 10 12
    (drvPingroupEntryY 0x1003c 12 5 20 5 (-1) (-1) (-1) (-1) 0),
  pingroup "dp_aux_ch2_hpd_pm2" 78 .eth3 .rsvd1 .displayb .rsvd3 0x10040 0 true 7 6 10 12
    (drvPingroupEntryY 0x10044 12 5 20 5 (-1) (-1) (-1) (-1) 0),
  pingroup "dp_aux_ch3_hpd_pm3" 79 .eth2 .rsvd1 .displaya .rsvd3 0x10048 0 true 7 6 10 12
    (drvPingroupEntryY 0x1004c 12 5 20 5 (-1) (-1) (-1) (-1) 0),
  pingroup "dp_aux_ch1_p_pn3" 87 .i2c4 .rsvd1 .rsvd2 .rsvd3 0x10050 0 true 7 6 10 12
    (drvPingroupEntryY 0x10054 12 5 20 5 (-1) (-1) (-1) (-1) 0),
  pingroup "dp_aux_ch1_n_pn4" 88 .i2c4 .rsvd1 .rsvd2 .rsvd3 0x10058 0 true 7 6 10 12
    (drvPingroupEntryY 0x1005c 12 5 20 5 (-1) (-1) (-1) (-1) 0),
  pingroup "dp_aux_ch2_p_pn5" 89 .i2c7 .rsvd1 .rsvd2 .rsvd3 0x10060 0 true 7 6 10 12
    (drvPingroupEntryY 0x10064 12 5 20 5 (-1) (-1) (-1) (-1) 0),
  pingroup "dp_aux_ch2_n_pn6" 90 .i2c7 .rsvd1 .rsvd2 .rsvd3 0x10068 0 true 7 6 10 12
    (drvPingroupEntryY 0x1006c 12 5 20 5 (-1) (-1) (-1) (-1) 0),
  pingroup "dp_aux_ch3_p_pn7" 91 .i2c9 .rsvd1 .rsvd2 .rsvd3 0x10070 0 true 7 6 10 12
    (drvPingroupEntryY 0x10074 12 5 20 5 (-1) (-1) (-1) (-1) 0),
  pingroup "dp_aux_ch3_n_pn0" 84 .i2c9 .rsvd1 .rsvd2 .rsvd3 0x10078 0 true 7 6 10 12
    (drvPingroupEntryY 0x1007c 12 5 20 5 (-1) (-1) (-1) (-1) 0),
  pingroup "eqos_td3_pe4" 25 .eqos .rsvd1 .rsvd2 .rsvd3 0x15000 0 true 5 6 10 12
    drvPingroupEntryN,
  pingroup "eqos_td2_pe3" 24 .eqos .rsvd1 .rsvd2 .rsvd3 0x15008 0 true 5 6 10 12
    drvPingroupEntryN,
  pingroup "eqos_td1_pe2" 23 .eqos .rsvd1 .rsvd2 .rsvd3 0x15010 0 true 5 6 10 12
    drvPingroupEntryN,
  pingroup "eqos_td0_pe1" 22 .eqos .rsvd1 .rsvd2 .rsvd3 0x15018 0 true 5 6 10 12
    drvPingroupEntryN,
  pingroup "eqos_rd3_pf1" 30 .eqos .rsvd1 .rsvd2 .rsvd3 0x15020 0 true 5 6 10 12
    drvPingroupEntryN,
  pingroup "eqos_rd2_pf0" 29 .eqos .rsvd1 .rsvd2 .rsvd3 0x15028 0 true 5 6 10 12
    drvPingroupEntryN,
  pingroup "eqos_rd1_pe7" 28 .eqos .rsvd1 .rsvd2 .rsvd3 0x15030 0 true 5 6 10 12
    drvPingroupEntryN,
  pingroup "eqos_sma_mdio_pf4" 33 .eqos .rsvd1 .rsvd2 .rsvd3 0x15038 0 true 5 6 10 12
    drvPingroupEntryN,
  pingroup "eqos_rd0_pe6" 27 .eqos .rsvd1 .rsvd2 .rsvd3 0x15040 0 true 5 6 10 12
    drvPingroupEntryN,
  pingroup "eqos_sma_mdc_pf5" 34 .eqos .rsvd1 .rsvd2 .rsvd3 0x15048 0 true 5 6 10 12
    drvPingroupEntryN,
  pingroup "eqos_comp" 217 .eqos .rsvd1 .rsvd2 .rsvd3 0x15050 0 false (-1) (-1) (-1) (-1)
    drvPingroupEntryN,
  pingroup "eqos_txc_pe0" 21 .eqos .rsvd1 .rsvd2 .rsvd3 0x15058 0 true 5 6 10 12
    drvPingroupEntryN,
  pingroup "eqos_rxc_pf3" 32 .eqos .rsvd1 .rsvd2 .rsvd3 0x15060 0 true 5 6 10 12
    drvPingroupEntryN,
  pingroup "eqos_tx_ctl_pe5" 26 .eqos .rsvd1 .rsvd2 .rsvd3 0x15068 0 true 5 6 10 12
    drvPingroupEntryN,
  pingroup "eqos_rx_ctl_pf2" 31 .eqos .rsvd1 .rsvd2 .rsvd3 0x15070 0 true 5 6 10 12
    drvPingroupEntryN,
  pingroup "pex_l2_clkreq_n_pk4" 68 .pe2 .rsvd1 .rsvd2 .rsvd3 0x7000 0 true 7 6 10 12
    (drvPingroupEntryY 0x7004 12 5 20 5 (-1) (-1) (-1) (-1) 0),
  pingroup "pex_wake_n_pl2" 74 .rsvd0 .rsvd1 .rsvd2 .rsvd3 0x7008 0 true 7 6 10 12
    (drvPingroupEntryY 0x700c 12 5 20 5 (-1) (-1) (-1) (-1) 0),
  pingroup "pex_l1_clkreq_n_pk2" 66 .pe1 .rsvd1 .rsvd2 .rsvd3 0x7010 0 true 7 6 10 12
    (drvPingroupEntryY 0x7014 12 5 20 5 (-1) (-1) (-1) (-1) 0),
  pingroup "pex_l1_rst_n_pk3" 67 .pe1 .rsvd1 .rsvd2 .rsvd3 0x7018 0 true 7 6 10 12
    (drvPingroupEntryY 0x701c 12 5 20 5 (-1) (-1) (-1) (-1) 0),
  pingroup "pex_l0_clkreq_n_pk0" 64 .pe0 .rsvd1 .rsvd2 .rsvd3 0x7020 0 true 7 6 10 12
    (drvPingroupEntryY 0x7024 12 5 20 5 (-1) (-1) (-1) (-1) 0),
  pingroup "pex_l0_rst_n_pk1" 65 .pe0 .rsvd1 .rsvd2 .rsvd3 0x7028 0 true 7 6 10 12
    (drvPingroupEntryY 0x702c 12 5 20 5 (-1) (-1) (-1) (-1) 0),
  pingroup "pex_l2_rst_n_pk5" 69 .pe2 .rsvd1 .rsvd2 .rsvd3 0x7030 0 true 7 6 10 12
    (drvPingroupEntryY 0x7034 12 5 20 5 (-1) (-1) (-1) (-1) 0),
  pingroup "pex_l3_clkreq_n_pk6" 70 .pe3 .rsvd1 .rsvd2 .rsvd3 0x7038 0 true 7 6 10 12
    (drvPingroupEntryY 0x703c 12 5 20 5 (-1) (-1) (-1) (-1) 0),
  pingroup "pex_l3_rst_n_pk7" 71 .pe3 .rsvd1 .rsvd2 .rsvd3 0x7040 0 true 7 6 10 12
    (drvPingroupEntryY 0x7044 12 5 20 5 (-1) (-1) (-1) (-1) 0),
  pingroup "pex_l4_clkreq_n_pl0" 72 .pe4 .rsvd1 .rsvd2 .rsvd3 0x7048 0 true 7 6 10 12
    (drvPingroupEntryY 0x704c 12 5 20 5 (-1) (-1) (-1) (-1) 0),
  pingroup "pex_l4_rst_n_pl1" 73 .pe4 .rsvd1 .rsvd2 .rsvd3 0x7050 0 true 7 6 10 12
    (drvPingroupEntryY 0x7054 12 5 20 5 (-1) (-1) (-1) (-1) 0),
  pingroup "soc_gpio34_pl3" 75 .rsvd0 .rsvd1 .rsvd2 .rsvd3 0x7058 0 true 7 6 10 12
    (drvPingroupEntryY 0x705c 12 5 20 5 (-1) (-1) (-1) (-1) 0),
  pingroup "pex_l5_clkreq_n_paf0" 181 .pe5 .rsvd1 .rsvd2 .rsvd3 0x14000 0 true 7 6 10 12
    (drvPingroupEntryY 0x14004 12 5 20 5 (-1) (-1) (-1) (-1) 0),
  pingroup "pex_l5_rst_n_paf1" 182 .pe5 .rsvd1 .rsvd2 .rsvd3 0x14008 0 true 7 6 10 12
    (drvPingroupEntryY 0x1400c 12 5 20 5 (-1) (-1) (-1) (-1) 0),
  pingroup "pex_l6_clkreq_n_paf2" 183 .pe6 .rsvd1 .rsvd2 .rsvd3 0x14010 0 true 7 6 10 12
    (drvPingroupEntryY 0x14014 12 5 20 5 (-1) (-1) (-1) (-1) 0),
  pingroup "pex_l6_rst_n_paf3" 184 .pe6 .rsvd1 .rsvd2 .rsvd3 0x14018 0 true 7 6 10 12
    (drvPingroupEntryY 0x1401c 12 5 20 5 (-1) (-1) (-1) (-1) 0),
  pingroup "pex_l10_clkreq_n_pag6" 191 .pe10 .rsvd1 .rsvd2 .rsvd3 0x19000 0 true 7 6 10 12
    (drvPingroupEntryY 0x19004 12 5 20 5 (-1) (-1) (-1) (-1) 0),
  pingroup "pex_l10_rst_n_pag7" 192 .pe10 .rsvd1 .rsvd2 .rsvd3 0x19008 0 true 7 6 10 12
    (drvPingroupEntryY 0x1900c 12 5 20 5 (-1) (-1) (-1) (-1) 0),
  pingroup "pex_l7_clkreq_n_pag0" 185 .pe7 .rsvd1 .rsvd2 .rsvd3 0x19010 0 true 7 6 10 12
    (drvPingroupEntryY 0x19014 12 5 20 5 (-1) (-1) (-1) (-1) 0),
  pingroup "pex_l7_rst_n_pag1" 186 .pe7 .rsvd1 .rsvd2 .rsvd3 0x19018 0 true 7 6 10 12
    (drvPingroupEntryY 0x1901c 12 5 20 5 (-1) (-1) (-1) (-1) 0),
  pingroup "pex_l8_clkreq_n_pag2" 187 .pe8 .rsvd1 .rsvd2 .rsvd3 0x19020 0 true 7 6 10 12
    (drvPingroupEntryY 0x19024 12 5 20 5 (-1) (-1) (-1) (-1) 0),
  pingroup "pex_l8_rst_n_pag3" 188 .pe8 .rsvd1 .rsvd2 .rsvd3 0x19028 0 true 7 6 10 12
    (drvPingroupEntryY 0x1902c 12 5 20 5 (-1) (-1) (-1) (-1) 0),
  pingroup "pex_l9_clkreq_n_pag4" 189 .pe9 .rsvd1 .rsvd2 .rsvd3 0x19030 0 true 7 6 10 12
    (drvPingroupEntryY 0x19034 12 5 20 5 (-1) (-1) (-1) (-1) 0),
  pingroup "pex_l9_rst_n_pag5" 190 .pe9 .rsvd1 .rsvd2 .rsvd3 0x19038 0 true 7 6 10 12
    (drvPingroupEntryY 0x1903c 12 5 20 5 (-1) (-1) (-1) (-1) 0),
  pingroup "qspi0_io3_pc5" 14 .qspi0 .rsvd1 .rsvd2 .rsvd3 0xb000 0 true 5 6 10 12
    drvPingroupEntryN,
  pingroup "qspi0_io2_pc4" 13 .qspi0 .rsvd1 .rsvd2 .rsvd3 0xb008 0 true 5 6 10 12
    drvPingroupEntryN,
  pingroup "qspi0_io1_pc3" 12 .qspi0 .rsvd1 .rsvd2 .rsvd3 0xb010 0 true 5 6 10 12
    drvPingroupEntryN,
  pingroup "qspi0_io0_pc2" 11 .qspi0 .rsvd1 .rsvd2 .rsvd3 0xb018 0 true 5 6 10 12
    drvPingroupEntryN,
  pingroup "qspi0_sck_pc0" 9 .qspi0 .rsvd1 .rsvd2 .rsvd3 0xb020 0 true 5 6 10 12
    drvPingroupEntryN,
  pingroup "qspi0_cs_n_pc1" 10 .qspi0 .rsvd1 .rsvd2 .rsvd3 0xb028 0 true 5 6 10 12
    drvPingroupEntryN,
  pingroup "qspi1_io3_pd3" 20 .qspi1 .rsvd1 .rsvd2 .rsvd3 0xb030 0 true 5 6 10 12
    drvPingroupEntryN,
  pingroup "qspi1_io2_pd2" 19 .qspi1 .rsvd1 .rsvd2 .rsvd3 0xb038 0 true 5 6 10 12
    drvPingroupEntryN,
  pingroup "qspi1_io1_pd1" 18 .qspi1 .rsvd1 .rsvd2 .rsvd3 0xb040 0 true 5 6 10 12
    drvPingroupEntryN,
  pingroup "qspi1_io0_pd0" 17 .qspi1 .rsvd1 .rsvd2 .rsvd3 0xb048 0 true 5 6 10 12
    drvPingroupEntryN,
  pingroup "qspi1_sck_pc6" 15 .qspi1 .rsvd1 .rsvd2 .rsvd3 0xb050 0 true 5 6 10 12
    drvPingroupEntryN,
  pingroup "qspi1_cs_n_pc7" 16 .qspi1 .rsvd1 .rsvd2 .rsvd3 0xb058 0 true 5 6 10 12
    drvPingroupEntryN,
  pingroup "qspi_comp" 218 .qspi .rsvd1 .rsvd2 .rsvd3 0xb060 0 false (-1) (-1) (-1) (-1)
    drvPingroupEntryN,
  pingroup "sdmmc1_clk_pj0" 58 .sdmmc1 .rsvd1 .rsvd2 .rsvd3 0x8000 0 true 5 6 10 12
    (drvPingroupEntryY 0x8004 28 2 30 2 (-1) (-1) (-1) (-1) 0),
  pingroup "sdmmc1_cmd_pj1" 59 .sdmmc1 .rsvd1 .rsvd2 .rsvd3 0x8008 0 true 5 6 10 12
    (drvPingroupEntryY 0x800c 28 2 30 2 (-1) (-1) (-1) (-1) 0),
  pingroup "sdmmc1_comp" 219 .sdmmc1 .rsvd1 .rsvd2 .rsvd3 0x8010 0 false (-1) (-1) (-1) (-1)
    drvPingroupEntryN,
  pingroup "sdmmc1_dat3_pj5" 63 .sdmmc1 .rsvd1 .rsvd2 .rsvd3 0x8018 0 true 5 6 10 12
    (drvPingroupEntryY 0x801c 28 2 30 2 (-1) (-1) (-1) (-1) 0),
  pingroup "sdmmc1_dat2_pj4" 62 .sdmmc1 .rsvd1 .rsvd2 .rsvd3 0x8020 0 true 5 6 10 12
    (drvPingroupEntryY 0x8024 28 2 30 2 (-1) (-1) (-1) (-1) 0),
  pingroup "sdmmc1_dat1_pj3" 61 .sdmmc1 .rsvd1 .rsvd2 .rsvd3 0x8028 0 true 5 6 10 12
    (drvPingroupEntryY 0x802c 28 2 30 2 (-1) (-1) (-1) (-1) 0),
  pingroup "sdmmc1_dat0_pj2" 60 .sdmmc1 .rsvd1 .rsvd2 .rsvd3 0x8030 0 true 5 6 10 12
    (drvPingroupEntryY 0x8034 28 2 30 2 (-1) (-1) (-1) (-1) 0),
  pingroup "sce_error_pee0" 208 .sce .rsvd1 .rsvd2 .rsvd3 0x1010 1 true 7 6 10 12
    (drvPingroupEntryY 0x1014 12 5 20 5 (-1) (-1) (-1) (-1) 1),
  pingroup "batt_oc_pee3" 211 .soc .rsvd1 .rsvd2 .rsvd3 0x1020 1 true 7 6 10 12
    (drvPingroupEntryY 0x1024 12 5 20 5 (-1) (-1) (-1) (-1) 1),
  pingroup "bootv_ctl_n_pee7" 215 .rsvd0 .rsvd1 .rsvd2 .rsvd3 0x1028 1 true 7 6 10 12
    (drvPingroupEntryY 0x102c 12 5 20 5 (-1) (-1) (-1) (-1) 1),
  pingroup "power_on_pee4" 212 .rsvd0 .rsvd1 .rsvd2 .rsvd3 0x1038 1 true 7 6 10 12
    (drvPingroupEntryY 0x103c 12 5 20 5 (-1) (-1) (-1) (-1) 1),
  pingroup "soc_gpio26_pee5" 213 .rsvd0 .rsvd1 .rsvd2 .rsvd3 0x1040 1 true 7 6 10 12
    (drvPingroupEntryY 0x1044 12 5 20 5 (-1) (-1) (-1) (-1) 1),
  pingroup "soc_gpio27_pee6" 214 .rsvd0 .rsvd1 .rsvd2 .rsvd3 0x1048 1 true 7 6 10 12
    (drvPingroupEntryY 0x104c 12 5 20 5 (-1) (-1) (-1) (-1) 1),
  pingroup "ao_retention_n_pee2" 210 .gpio .led .rsvd2 .istctrl 0x1050 1 true 7 6 10 12
    (drvPingroupEntryY 0x1054 12 5 20 5 (-1) (-1) (-1) (-1) 1),
  pingroup "vcomp_alert_pee1" 209 .soc .rsvd1 .rsvd2 .rsvd3 0x1058 1 true 7 6 10 12
    (drvPingroupEntryY 0x105c 12 5 20 5 (-1) (-1) (-1) (-1) 1),
  pingroup "hdmi_cec_pgg0" 216 .hdmi .rsvd1 .rsvd2 .rsvd3 0x1060 1 true 7 6 10 12
    (drvPingroupEntryY 0x1064 12 5 20 5 (-1) (-1) (-1) (-1) 1),
  pingroup "ufs0_rst_n_pae1" 180 .ufs0 .rsvd1 .rsvd2 .rsvd3 0x11000 0 true 5 6 10 12
    (drvPingroupEntryY 0x11004 12 5 24 5 (-1) (-1) (-1) (-1) 0),
  pingroup "ufs0_ref_clk_pae0" 179 .ufs0 .rsvd1 .rsvd2 .rsvd3 0x11008 0 true 5 6 10 12
    (drvPingroupEntryY 0x1100c 12 5 24 5 (-1) (-1) (-1) (-1) 0),
  pingroup "spi3_miso_py1" 144 .spi3 .rsvd1 .rsvd2 .rsvd3 0xd000 0 true 7 6 10 12
    (drvPingroupEntryY 0xd004 12 5 20 5 (-1) (-1) (-1) (-1) 0),
  pingroup "spi1_cs0_pz6" 157 .spi1 .rsvd1 .rsvd2 .rsvd3 0xd008 0 true 7 6 10 12
    (drvPingroupEntryY 0xd00c 12 5 20 5 (-1) (-1) (-1) (-1) 0),
  pingroup "spi3_cs0_py3" 146 .spi3 .rsvd1 .rsvd2 .rsvd3 0xd010 0 true 7 6 10 12
    (drvPingroupEntryY 0xd014 12 5 20 5 (-1) (-1) (-1) (-1) 0),
  pingroup "spi1_miso_pz4" 155 .spi1 .rsvd1 .rsvd2 .rsvd3 0xd018 0 true 7 6 10 12
    (drvPingroupEntryY 0xd01c 12 5 20 5 (-1) (-1) (-1) (-1) 0),
  pingroup "spi3_cs1_py4" 147 .spi3 .rsvd1 .rsvd2 .rsvd3 0xd020 0 true 7 6 10 12
    (drvPingroupEntryY 0xd024 12 5 20 5 (-1) (-1) (-1) (-1) 0),
  pingroup "spi1_sck_pz3" 154 .spi1 .rsvd1 .rsvd2 .rsvd3 0xd028 0 true 7 6 10 12
    (drvPingroupEntryY 0xd02c 12 5 20 5 (-1) (-1) (-1) (-1) 0),
  pingroup "spi3_sck_py0" 143 .spi3 .rsvd1 .rsvd2 .rsvd3 0xd030 0 true 7 6 10 12
    (drvPingroupEntryY 0xd034 12 5 20 5 (-1) (-1) (-1) (-1) 0),
  pingroup "spi1_cs1_pz7" 158 .spi1 .rsvd1 .rsvd2 .rsvd3 0xd038 0 true 7 6 10 12
    (drvPingroupEntryY 0xd03c 12 5 20 5 (-1) (-1) (-1) (-1) 0),
  pingroup "spi1_mosi_pz5" 156 .spi1 .rsvd1 .rsvd2 .rsvd3 0xd040 0 true 7 6 10 12
    (drvPingroupEntryY 0xd044 12 5 20 5 (-1) (-1) (-1) (-1) 0),
  pingroup "spi3_mosi_py2" 145 .spi3 .rsvd1 .rsvd2 .rsvd3 0xd048 0 true 7 6 10 12
    (drvPingroupEntryY 0xd04c 12 5 20 5 (-1) (-1) (-1) (-1) 0),
  pingroup "uart2_tx_px4" 139 .uartb .rsvd1 .rsvd2 .rsvd3 0xd050 0 true 7 6 10 12
    (drvPingroupEntryY 0xd054 12 5 20 5 (-1) (-1) (-1) (-1) 0),
  pingroup "uart2_rx_px5" 140 .uartb .rsvd1 .rsvd2 .rsvd3 0xd058 0 true 7 6 10 12
    (drvPingroupEntryY 0xd05c 12 5 20 5 (-1) (-1) (-1) (-1) 0),
  pingroup "uart2_rts_px6" 141 .uartb .rsvd1 .rsvd2 .rsvd3 0xd060 0 true 7 6 10 12
    (drvPingroupEntryY 0xd064 12 5 20 5 (-1) (-1) (-1) (-1) 0),
  pingroup "uart2_cts_px7" 142 .uartb .rsvd1 .rsvd2 .rsvd3 0xd068 0 true 7 6 10 12
    (drvPingroupEntryY 0xd06c 12 5 20 5 (-1) (-1) (-1) (-1) 0),
  pingroup "uart5_tx_py5" 148 .uarte .rsvd1 .rsvd2 .rsvd3 0xd070 0 true 7 6 10 12
    (drvPingroupEntryY 0xd074 12 5 20 5 (-1) (-1) (-1) (-1) 0),
  pingroup "uart5_rx_py6" 149 .uarte .rsvd1 .rsvd2 .rsvd3 0xd078 0 true 7 6 10 12
    (drvPingroupEntryY 0xd07c 12 5 20 5 (-1) (-1) (-1) (-1) 0),
  pingroup "uart5_rts_py7" 150 .uarte .rsvd1 .rsvd2 .rsvd3 0xd080 0 true 7 6 10 12
    (drvPingroupEntryY 0xd084 12 5 20 5 (-1) (-1) (-1) (-1) 0),
  pingroup "uart5_cts_pz0" 151 .uarte .rsvd1 .rsvd2 .rsvd3 0xd088 0 true 7 6 10 12
    (drvPingroupEntryY 0xd08c 12 5 20 5 (-1) (-1) (-1) (-1) 0),
  pingroup "gpu_pwr_req_px0" 135 .rsvd0 .rsvd1 .rsvd2 .rsvd3 0xd090 0 true 7 6 10 12
    (drvPingroupEntryY 0xd094 12 5 20 5 (-1) (-1) (-1) (-1) 0),
  pingroup "gp_pwm3_px3" 138 .gp .rsvd1 .rsvd2 .rsvd3 0xd098 0 true 7 6 10 12
    (drvPingroupEntryY 0xd09c 12 5 20 5 (-1) (-1) (-1) (-1) 0),
  pingroup "gp_pwm2_px2" 137 .gp .rsvd1 .rsvd2 .rsvd3 0xd0a0 0 true 7 6 10 12
    (drvPingroupEntryY 0xd0a4 12 5 20 5 (-1) (-1) (-1) (-1) 0),
  pingroup "cv_pwr_req_px1" 136 .rsvd0 .rsvd1 .rsvd2 .rsvd3 0xd0a8 0 true 7 6 10 12
    (drvPingroupEntryY 0xd0ac 12 5 20 5 (-1) (-1) (-1) (-1) 0),
  pingroup "usb_vbus_en0_pz1" 152 .usb .rsvd1 .rsvd2 .rsvd3 0xd0b0 0 true 7 6 10 12
    (drvPingroupEntryY 0xd0b4 12 5 20 5 (-1) (-1) (-1) (-1) 0),
  pingroup "usb_vbus_en1_pz2" 153 .usb .rsvd1 .rsvd2 .rsvd3 0xd0b8 0 true 7 6 10 12
    (drvPingroupEntryY 0xd0bc 12 5 20 5 (-1) (-1) (-1) (-1) 0),
  pingroup "extperiph2_clk_pp1" 93 .extperiph2 .rsvd1 .rsvd2 .rsvd3 0x0000 0 true 7 6 10 12
    (drvPingroupEntryY 0x0004 12 5 20 5 (-1) (-1) (-1) (-1) 0),
  pingroup "extperiph1_clk_pp0" 92 .extperiph1 .rsvd1 .rsvd2 .rsvd3 0x0008 0 true 7 6 10 12
    (drvPingroupEntryY 0x000c 12 5 20 5 (-1) (-1) (-1) (-1) 0),
  pingroup "cam_i2c_sda_pp3" 95 .i2c3 .vi0 .rsvd2 .vi1 0x0010 0 true 7 6 10 12
    (drvPingroupEntryY 0x0014 12 5 20 5 (-1) (-1) (-1) (-1) 0),
  pingroup "cam_i2c_scl_pp2" 94 .i2c3 .vi0 .vi0_alt .vi1 0x0018 0 true 7 6 10 12
    (drvPingroupEntryY 0x001c 12 5 20 5 (-1) (-1) (-1) (-1) 0),
  pingroup "soc_gpio23_pp4" 96 .vi0 .vi0_alt .vi1 .vi1_alt 0x0020 0 true 7 6 10 12
    (drvPingroupEntryY 0x0024 12 5 20 5 (-1) (-1) (-1) (-1) 0),
  pingroup "soc_gpio24_pp5" 97 .vi0 .soc .vi1 .vi1_alt 0x0028 0 true 7 6 10 12
    (drvPingroupEntryY 0x002c 12 5 20 5 (-1) (-1) (-1) (-1) 0),
  pingroup "soc_gpio25_pp6" 98 .vi0 .i2s5 .vi1 .dmic1 0x0030 0 true 7 6 10 12
    (drvPingroupEntryY 0x0034 12 5 20 5 (-1) (-1) (-1) (-1) 0),
  pingroup "pwr_i2c_scl_pp7" 99 .i2c5 .rsvd1 .rsvd2 .rsvd3 0x0038 0 true 7 6 10 12
    (drvPingroupEntryY 0x003c 12 5 20 5 (-1) (-1) (-1) (-1) 0),
  pingroup "pwr_i2c_sda_pq0" 100 .i2c5 .rsvd1 .rsvd2 .rsvd3 0x0040 0 true 7 6 10 12
    (drvPingroupEntryY 0x0044 12 5 20 5 (-1) (-1) (-1) (-1) 0),
  pingroup "soc_gpio28_pq1" 101 .vi0 .rsvd1 .vi1 .rsvd3 0x0048 0 true 7 6 10 12
    (drvPingroupEntryY 0x004c 12 5 20 5 (-1) (-1) (-1) (-1) 0),
  pingroup "soc_gpio29_pq2" 102 .rsvd0 .nv .rsvd2 .rsvd3 0x0050 0 true 7 6 10 12
    (drvPingroupEntryY 0x0054 12 5 20 5 (-1) (-1) (-1) (-1) 0),
  pingroup "soc_gpio30_pq3" 103 .rsvd0 .wdt .rsvd2 .rsvd3 0x0058 0 true 7 6 10 12
    (drvPingroupEntryY 0x005c 12 5 20 5 (-1) (-1) (-1) (-1) 0),
  pingroup "soc_gpio31_pq4" 104 .rsvd0 .rsvd1 .rsvd2 .rsvd3 0x0060 0 true 7 6 10 12
    (drvPingroupEntryY 0x0064 12 5 20 5 (-1) (-1) (-1) (-1) 0),
  pingroup "soc_gpio32_pq5" 105 .rsvd0 .extperiph3 .dcb .rsvd3 0x0068 0 true 7 6 10 12
    (drvPingroupEntryY 0x006c 12 5 20 5 (-1) (-1) (-1) (-1) 0),
  pingroup "soc_gpio33_pq6" 106 .rsvd0 .extperiph4 .dcb .rsvd3 0x0070 0 true 7 6 10 12
    (drvPingroupEntryY 0x0074 12 5 20 5 (-1) (-1) (-1) (-1) 0),
  pingroup "soc_gpio35_pq7" 107 .rsvd0 .i2s5 .dmic1 .rsvd3 0x0078 0 true 7 6 10 12
    (drvPingroupEntryY 0x007c 12 5 20 5 (-1) (-1) (-1) (-1) 0),
  pingroup "soc_gpio37_pr0" 108 .gp .i2s5 .dmic4 .dspk1 0x0080 0 true 7 6 10 12
    (drvPingroupEntryY 0x0084 12 5 20 5 (-1) (-1) (-1) (-1) 0),
  pingroup "soc_gpio56_pr1" 109 .rsvd0 .i2s5 .dmic4 .dspk1 0x0088 0 true 7 6 10 12
    (drvPingroupEntryY 0x008c 12 5 20 5 (-1) (-1) (-1) (-1) 0),
  pingroup "uart1_cts_pr5" 113 .uarta .rsvd1 .rsvd2 .rsvd3 0x0090 0 true 7 6 10 12
    (drvPingroupEntryY 0x0094 12 5 20 5 (-1) (-1) (-1) (-1) 0),
  pingroup "uart1_rts_pr4" 112 .uarta .rsvd1 .rsvd2 .rsvd3 0x0098 0 true 7 6 10 12
    (drvPingroupEntryY 0x009c 12 5 20 5 (-1) (-1) (-1) (-1) 0),
  pingroup "uart1_rx_pr3" 111 .uarta .rsvd1 .rsvd2 .rsvd3 0x00a0 0 true 7 6 10 12
    (drvPingroupEntryY 0x00a4 12 5 20 5 (-1) (-1) (-1) (-1) 0),
  pingroup "uart1_tx_pr2" 110 .uarta .rsvd1 .rsvd2 .rsvd3 0x00a8 0 true 7 6 10 12
    (drvPingroupEntryY 0x00ac 12 5 20 5 (-1) (-1) (-1) (-1) 0),
  pingroup "cpu_pwr_req_pi5" 56 .rsvd0 .rsvd1 .rsvd2 .rsvd3 0x4000 0 true 7 6 10 12
    (drvPingroupEntryY 0x4004 12 5 20 5 (-1) (-1) (-1) (-1) 0),
  pingroup "uart4_cts_ph6" 49 .uartd .rsvd1 .i2s7 .rsvd3 0x4008 0 true 7 6 10 12
    (drvPingroupEntryY 0x400c 12 5 20 5 (-1) (-1) (-1) (-1) 0),
  pingroup "uart4_rts_ph5" 48 .uartd .spi4 .rsvd2 .rsvd3 0x4010 0 true 7 6 10 12
    (drvPingroupEntryY 0x4014 12 5 20 5 (-1) (-1) (-1) (-1) 0),
  pingroup "uart4_rx_ph4" 47 .uartd .rsvd1 .i2s7 .rsvd3 0x4018 0 true 7 6 10 12
    (drvPingroupEntryY 0x401c 12 5 20 5 (-1) (-1) (-1) (-1) 0),
  pingroup "uart4_tx_ph3" 46 .uartd .spi4 .rsvd2 .rsvd3 0x4020 0 true 7 6 10 12
    (drvPingroupEntryY 0x4024 12 5 20 5 (-1) (-1) (-1) (-1) 0),
  pingroup "gen1_i2c_scl_pi3" 54 .i2c1 .rsvd1 .rsvd2 .rsvd3 0x4028 0 true 7 6 10 12
    (drvPingroupEntryY 0x402c 12 5 20 5 (-1) (-1) (-1) (-1) 0),
  pingroup "gen1_i2c_sda_pi4" 55 .i2c1 .rsvd1 .rsvd2 .rsvd3 0x4030 0 true 7 6 10 12
    (drvPingroupEntryY 0x4034 12 5 20 5 (-1) (-1) (-1) (-1) 0),
  pingroup "soc_gpio20_pg7" 42 .rsvd0 .sdmmc1 .rsvd2 .rsvd3 0x4038 0 true 7 6 10 12
    (drvPingroupEntryY 0x403c 12 5 20 5 (-1) (-1) (-1) (-1) 0),
  pingroup "soc_gpio21_ph0" 43 .rsvd0 .gp .i2s7 .rsvd3 0x4040 0 true 7 6 10 12
    (drvPingroupEntryY 0x4044 12 5 20 5 (-1) (-1) (-1) (-1) 0),
  pingroup "soc_gpio22_ph1" 44 .rsvd0 .rsvd1 .i2s7 .rsvd3 0x4048 0 true 7 6 10 12
    (drvPingroupEntryY 0x404c 12 5 20 5 (-1) (-1) (-1) (-1) 0),
  pingroup "soc_gpio13_pg0" 35 .rsvd0 .rsvd1 .rsvd2 .rsvd3 0x4050 0 true 7 6 10 12
    (drvPingroupEntryY 0x4054 12 5 20 5 (-1) (-1) (-1) (-1) 0),
  pingroup "soc_gpio14_pg1" 36 .rsvd0 .spi4 .rsvd2 .rsvd3 0x4058 0 true 7 6 10 12
    (drvPingroupEntryY 0x405c 12 5 20 5 (-1) (-1) (-1) (-1) 0),
  pingroup "soc_gpio15_pg2" 37 .rsvd0 .spi4 .rsvd2 .rsvd3 0x4060 0 true 7 6 10 12
    (drvPingroupEntryY 0x4064 12 5 20 5 (-1) (-1) (-1) (-1) 0),
  pingroup "soc_gpio16_pg3" 38 .rsvd0 .spi4 .rsvd2 .rsvd3 0x4068 0 true 7 6 10 12
    (drvPingroupEntryY 0x406c 12 5 20 5 (-1) (-1) (-1) (-1) 0),
  pingroup "soc_gpio17_pg4" 39 .rsvd0 .ccla .rsvd2 .rsvd3 0x4070 0 true 7 6 10 12
    (drvPingroupEntryY 0x4074 12 5 20 5 (-1) (-1) (-1) (-1) 0),
  pingroup "soc_gpio18_pg5" 40 .rsvd0 .rsvd1 .rsvd2 .rsvd3 0x4078 0 true 7 6 10 12
    (drvPingroupEntryY 0x407c 12 5 20 5 (-1) (-1) (-1) (-1) 0),
  pingroup "soc_gpio19_pg6" 41 .gp .rsvd1 .rsvd2 .rsvd3 0x4080 0 true 7 6 10 12
    (drvPingroupEntryY 0x4084 12 5 20 5 (-1) (-1) (-1) (-1) 0),
  pingroup "soc_gpio41_ph7" 50 .rsvd0 .i2s2 .rsvd2 .rsvd3 0x4088 0 true 7 6 10 12
    (drvPingroupEntryY 0x408c 12 5 20 5 (-1) (-1) (-1) (-1) 0),
  pingroup "soc_gpio42_pi0" 51 .rsvd0 .i2s2 .rsvd2 .rsvd3 0x4090 0 true 7 6 10 12
    (drvPingroupEntryY 0x4094 12 5 20 5 (-1) (-1) (-1) (-1) 0),
  pingroup "soc_gpio43_pi1" 52 .rsvd0 .i2s2 .rsvd2 .rsvd3 0x4098 0 true 7 6 10 12
    (drvPingroupEntryY 0x409c 12 5 20 5 (-1) (-1) (-1) (-1) 0),
  pingroup "soc_gpio44_pi2" 53 .rsvd0 .i2s2 .rsvd2 .rsvd3 0x40a0 0 true 7 6 10 12
    (drvPingroupEntryY 0x40a4 12 5 20 5 (-1) (-1) (-1) (-1) 0),
  pingroup "soc_gpio06_ph2" 45 .rsvd0 .rsvd1 .rsvd2 .rsvd3 0x40a8 0 true 7 6 10 12
    (drvPingroupEntryY 0x40ac 12 5 20 5 (-1) (-1) (-1) (-1) 0),
  pingroup "soc_gpio07_pi6" 57 .gp .rsvd1 .rsvd2 .rsvd3 0x40b0 0 true 7 6 10 12
    (drvPingroupEntryY 0x40b4 12 5 20 5 (-1) (-1) (-1) (-1) 0),
  pingroup "dap4_sclk_pa4" 4 .i2s4 .rsvd1 .rsvd2 .rsvd3 0x2000 0 true 7 6 10 12
    (drvPingroupEntryY 0x2004 12 5 20 5 (-1) (-1) (-1) (-1) 0),
  pingroup "dap4_dout_pa5" 5 .i2s4 .rsvd1 .rsvd2 .rsvd3 0x2008 0 true 7 6 10 12
    (drvPingroupEntryY 0x200c 12 5 20 5 (-1) (-1) (-1) (-1) 0),
  pingroup "dap4_din_pa6" 6 .i2s4 .rsvd1 .rsvd2 .rsvd3 0x2010 0 true 7 6 10 12
    (drvPingroupEntryY 0x2014 12 5 20 5 (-1) (-1) (-1) (-1) 0),
  pingroup "dap4_fs_pa7" 7 .i2s4 .rsvd1 .rsvd2 .rsvd3 0x2018 0 true 7 6 10 12
    (drvPingroupEntryY 0x201c 12 5 20 5 (-1) (-1) (-1) (-1) 0),
  pingroup "dap6_sclk_pa0" 0 .i2s6 .rsvd1 .rsvd2 .rsvd3 0x2020 0 true 7 6 10 12
    (drvPingroupEntryY 0x2024 12 5 20 5 (-1) (-1) (-1) (-1) 0),
  pingroup "dap6_dout_pa1" 1 .i2s6 .rsvd1 .rsvd2 .rsvd3 0x2028 0 true 7 6 10 12
    (drvPingroupEntryY 0x202c 12 5 20 5 (-1) (-1) (-1) (-1) 0),
  pingroup "dap6_din_pa2" 2 .i2s6 .rsvd1 .rsvd2 .rsvd3 0x2030 0 true 7 6 10 12
    (drvPingroupEntryY 0x2034 12 5 20 5 (-1) (-1) (-1) (-1) 0),
  pingroup "dap6_fs_pa3" 3 .i2s6 .rsvd1 .rsvd2 .rsvd3 0x2038 0 true 7 6 10 12
    (drvPingroupEntryY 0x203c 12 5 20 5 (-1) (-1) (-1) (-1) 0),
  pingroup "soc_gpio45_pad0" 175 .rsvd0 .i2s1 .rsvd2 .rsvd3 0x18000 0 true 7 6 10 12
    (drvPingroupEntryY 0x18004 12 5 20 5 (-1) (-1) (-1) (-1) 0),
  pingroup "soc_gpio46_pad1" 176 .rsvd0 .i2s1 .rsvd2 .rsvd3 0x18008 0 true 7 6 10 12
    (drvPingroupEntryY 0x1800c 12 5 20 5 (-1) (-1) (-1) (-1) 0),
  pingroup "soc_gpio47_pad2" 177 .rsvd0 .i2s1 .rsvd2 .rsvd3 0x18010 0 true 7 6 10 12
    (drvPingroupEntryY 0x18014 12 5 20 5 (-1) (-1) (-1) (-1) 0),
  pingroup "soc_gpio48_pad3" 178 .rsvd0 .i2s1 .rsvd2 .rsvd3 0x18018 0 true 7 6 10 12
    (drvPingroupEntryY 0x1801c 12 5 20 5 (-1) (-1) (-1) (-1) 0),
  pingroup "soc_gpio57_pac4" 171 .rsvd0 .i2s8 .rsvd2 .sdmmc1 0x18020 0 true 7 6 10 12
    (drvPingroupEntryY 0x18024 12 5 20 5 (-1) (-1) (-1) (-1) 0),
  pingroup "soc_gpio58_pac5" 172 .rsvd0 .i2s8 .rsvd2 .sdmmc1 0x18028 0 true 7 6 10 12
    (drvPingroupEntryY 0x1802c 12 5 20 5 (-1) (-1) (-1) (-1) 0),
  pingroup "soc_gpio59_pac6" 173 .aud .i2s8 .rsvd2 .rsvd3 0x18030 0 true 7 6 10 12
    (drvPingroupEntryY 0x18034 12 5 20 5 (-1) (-1) (-1) (-1) 0),
  pingroup "soc_gpio60_pac7" 174 .rsvd0 .i2s8 .nv .igpu 0x18038 0 true 7 6 10 12
    (drvPingroupEntryY 0x1803c 12 5 20 5 (-1) (-1) (-1) (-1) 0),
  pingroup "spi5_cs0_pac3" 170 .spi5 .i2s3 .dmic2 .rsvd3 0x18040 0 true 7 6 10 12
    (drvPingroupEntryY 0x18044 12 5 20 5 (-1) (-1) (-1) (-1) 0),
  pingroup "spi5_miso_pac1" 168 .spi5 .i2s3 .dspk0 .rsvd3 0x18048 0 true 7 6 10 12
    (drvPingroupEntryY 0x1804c 12 5 20 5 (-1) (-1) (-1) (-1) 0),
  pingroup "spi5_mosi_pac2" 169 .spi5 .i2s3 .dmic2 .rsvd3 0x18050 0 true 7 6 10 12
    (drvPingroupEntryY 0x18054 12 5 20 5 (-1) (-1) (-1) (-1) 0),
  pingroup "spi5_sck_pac0" 167 .spi5 .i2s3 .dspk0 .rsvd3 0x18058 0 true 7 6 10 12
    (drvPingroupEntryY 0x1805c 12 5 20 5 (-1) (-1) (-1) (-1) 0)]

/-- `tegra234_pinctrl`. `ngpios` is `NUM_GPIOS`, one past `TEGRA_PIN_HDMI_CEC_PGG0` = 216. -/
def tegra234Pinctrl : TegraPinctrlSocData where
  ngpios := 217
  functions := tegra234Functions
  groups := tegra234Groups
  hsmInMux := false
  schmittInMux := true
  drvtypeInMux := true
  sfselInMux := true

@[simp] theorem tegra234Pinctrl_groups : tegra234Pinctrl.groups = tegra234Groups := rfl

@[simp] theorem tegra234Pinctrl_functions : tegra234Pinctrl.functions = tegra234Functions := rfl

end TegraPinctrl
